import LinkedData.Proofs.Document.Reinjection
import LinkedData.Proofs.Json.RoundTrip
import LinkedData.Proofs.Page.Injection

/-!
# Metadata in the markup of documents

* `Page.injectText_eq_ok`: what it takes to put the tree of a page into the markup of a document;
* `Page.injectText_reads_back`: the markup holds the document that the page gets, with the tree in its only script of
  linked data, and putting the tree into it once more changes nothing. The library is only relied on to read what it
  writes, and to write what it reads, as far as documents are of some kind.
-/

namespace LinkedData.Page

open Element

section Text

variable {lib : MarkupLibrary} {texts : String → Prop} {kind : DocumentKind} {p p' : Page} {root : Element}
  {context text text' : String}

/-- What it takes to put a declared tree into the markup of a document. -/
theorem injectText_eq_ok (hdeclares : p.declares = true) (hread : lib.read text = .ok root) :
    p.injectText lib context text = .ok (text', p') ↔
      ∃ tree content document, p.declared? = some tree ∧ render context tree = .ok content ∧
        obstacleIn? content = none ∧ root.injected? content = some document ∧ lib.write document = text' ∧
        { p with document := some document } = p' := by
  have hok (answer : Bool) (q : Page) :=
    @inject_eq_ok { p with document := some root } q root context answer hdeclares rfl
  constructor
  · intro h
    simp only [injectText, if_pos hdeclares, hread] at h
    split at h
    · cases h
    · next answer q hinject =>
      obtain ⟨rfl, rfl⟩ := Prod.mk.inj (Except.ok.inj h)
      obtain ⟨tree, content, document, htree, hcontent, hobstacle, hinjected, _, rfl⟩ := (hok answer q).mp hinject
      exact ⟨tree, content, document, htree, hcontent, hobstacle, hinjected, rfl, rfl⟩
  · rintro ⟨tree, content, document, htree, hcontent, hobstacle, hinjected, rfl, rfl⟩
    have h := (hok _ _).mpr ⟨tree, content, document, htree, hcontent, hobstacle, hinjected, rfl, rfl⟩
    simp only [injectText, if_pos hdeclares, hread, h]
    rfl

/-- The document that a page has makes no difference. -/
theorem injectText_withDocument (hdeclares : p.declares = true) (document : Option Element) :
    ({ p with document := document } : Page).injectText lib context text = p.injectText lib context text := by
  have hsame : ({ p with document := document } : Page).declares = true := hdeclares
  rw [injectText, injectText, if_pos hsame, if_pos hdeclares]

/-- Neither do documents that scripts are put into with the same result. -/
theorem injectText_congr {document : Element} (hdeclares : p.declares = true) (hread : lib.read text = .ok root)
    (hread' : lib.read text' = .ok document)
    (hsame : ∀ content, document.injected? content = root.injected? content) :
    p.injectText lib context text' = p.injectText lib context text := by
  obtain ⟨tree, htree⟩ := Option.isSome_iff_exists.mp hdeclares
  have hdeclared (d : Element) : ({ p with document := some d } : Page).declared? = some tree := htree
  simp only [injectText, if_pos hdeclares, hread, hread', inject, hdeclared, hsame]
  cases hrender : render context tree with
  | error e => rfl
  | ok content =>
    cases hobstacle : obstacleIn? content with
    | some e => simp only [hobstacle]
    | none =>
      cases hinjected : root.injected? content with
      | none => simp only [hobstacle, hinjected]
      | some d =>
        simp only [hobstacle, hinjected]
        rfl

/-- **Markup and document agree**, with any library that can be relied on for a kind of documents. If a declared tree can
be put into the text of such a document, the new text is read as the document that the page gets when the tree is put
into the document itself, whatever the tree, its keys and the context hold. The only script of linked data in it is read
as the tree with the context, as JSON holds it: a tree without tuples whose keys are texts, as every resolved one, is
read as it is. Putting the tree into the new text leaves the text and the page as they are. -/
theorem injectText_reads_back (hlib : lib.InverseOn texts kind) (hdeclares : p.declares = true) (htext : texts text)
    (h : p.injectText lib context text = .ok (text', p')) :
    ∃ root document tree wrapped content a,
      lib.read text = .ok root ∧ ({ p with document := some root } : Page).inject context = (.ok true, p') ∧
      p'.document = some document ∧ lib.read text' = .ok document ∧ texts text' ∧
      p.declared? = some tree ∧ wrap context tree = .ok wrapped ∧
      IsOnly isDataScript document a (dataScript content) ∧ Json.read? content = some wrapped.asJson ∧
      (tree.IsJson → Json.read? content = some wrapped) ∧
      p'.injectText lib context text' = .ok (text', p') := by
  obtain ⟨root, hread, hroot, _⟩ := hlib.read_text htext
  obtain ⟨tree, content, document, htree, hcontent, hobstacle, hinjected, rfl, rfl⟩ :=
    (injectText_eq_ok hdeclares hread).mp h
  obtain ⟨htext', hread'⟩ := hlib.read_write_injected? hroot (isInert_render hcontent).no_tag hinjected
  obtain ⟨a, honly⟩ := kind.injected?_isOnly hroot hinjected
  obtain ⟨wrapped, hwrap, hserialize⟩ := bind_eq_ok.mp hcontent
  have hvalue := Json.read?_serialize_asJson hserialize
  refine ⟨root, document, tree, wrapped, content, a, hread, ?_, rfl, hread', htext', htree, hwrap, honly, hvalue, ?_, ?_⟩
  · exact (@inject_eq_ok { p with document := some root } _ root context true hdeclares rfl).mpr
      ⟨tree, content, document, htree, hcontent, hobstacle, hinjected, rfl, rfl⟩
  · intro hjson
    rw [hvalue, Value.asJson_of_isJson (wrap_isJson hjson hwrap)]
  · have hagain := (injected?_injected? (kind.root hroot) (kind.headsOutside hroot) hinjected).2.2
    rw [injectText_withDocument hdeclares, injectText_congr hdeclares hread hread' hagain, h]

end Text

/-! ### documents in the standard markup -/

/-- A document with a script of linked data behind its title. -/
def exampleRoot (content : String) : Element :=
  .mk (.tag "html") [("lang", some "en")] "" [
    .mk (.tag "head") [] "" [.mk (.tag "title") [] "a" [] "", dataScript content] "",
    .mk (.tag "body") [] "" [.mk (.tag "p") [] "c" [] ""] ""] ""

/-- The markup of such a document. -/
def exampleMarkup : String :=
  "<!DOCTYPE html>\n<html lang=\"en\"><head><title>a</title>" ++ scriptStart ++ "[]" ++ scriptEnd ++
    "</head><body><p>c</p></body></html>"

theorem isLegible_of_read? {text : String} {root : Element} (h : Markup.read? text = some root)
    (hroot : Markup.HoldsElements root) : Markup.IsLegible root :=
  ⟨(Markup.legible_of_read? h).1, hroot, (Markup.legible_of_read? h).2⟩

theorem exampleMarkup_isLegibleText : Markup.IsLegibleText exampleMarkup := by
  have hread : Markup.read? exampleMarkup = some (exampleRoot "[]") := by decide +kernel
  exact ⟨exampleRoot "[]", isLegible_of_read? hread ⟨"html", rfl, by decide, by decide⟩, by decide +kernel⟩

/-- A tree that asks to end its script and the document. -/
def hostileObject : Value :=
  .map [(.str "</script>", .str "<!--<script>&\x00"), (.str "</html>", .list [.null])]

/-- The text of this tree with `</title>` as its context. -/
def hostileContent : String :=
  "\x7b\"@context\":\"\\u003c/title\\u003e\"," ++
  "\"\\u003c/script\\u003e\":\"\\u003c!--\\u003cscript\\u003e\\u0026\\u0000\",\"\\u003c/html\\u003e\":[null]\x7d"

theorem hostileObject_reads_back :
    let page : Page := ⟨"/", [(.str declaredKey, hostileObject)], none⟩
    ∃ text p document wrapped content a,
      page.injectText .standard "</title>" exampleMarkup = .ok (text, p) ∧
      MarkupLibrary.standard.read text = .ok document ∧
      p.document = some document ∧ IsOnly isDataScript document a (dataScript content) ∧
      wrap "</title>" hostileObject = .ok wrapped ∧ Json.read? content = some wrapped ∧
      p.injectText .standard "</title>" text = .ok (text, p) := by
  intro page
  have hread : MarkupLibrary.standard.read exampleMarkup = .ok (exampleRoot "[]") := by decide +kernel
  have hrender : render "</title>" hostileObject = .ok hostileContent := by decide +kernel
  have hinjected : ∀ old content, (exampleRoot old).injected? content = some (exampleRoot content) := fun _ _ => rfl
  have h := (injectText_eq_ok (p := page) (by decide) hread).mpr
    ⟨_, _, _, rfl, hrender, by decide +kernel, hinjected _ _, rfl, rfl⟩
  obtain ⟨_, document, tree, wrapped, content, a, _, _, hdocument, hread', _, htree, hwrap, honly, _, hjson, hagain⟩ :=
    injectText_reads_back MarkupLibrary.standard_inverseOn (by decide) exampleMarkup_isLegibleText h
  obtain rfl : hostileObject = tree := Option.some.inj htree
  exact ⟨_, _, document, wrapped, content, a, h, hread', hdocument, honly, hwrap, hjson (by decide +kernel), hagain⟩

/-! ### what JSON does not hold -/

/-- A page with a key that is no text, another key of the same name, and a tuple. -/
def numberedPage : Page :=
  ⟨"/", [(.str declaredKey, .map [(.scalar (.int 1), .str "a"), (.str "1", .tuple [.str "b"])])], none⟩

/-- The text of its tree. -/
def numberedContent : String := "\x7b\"@context\":\"https://schema.org\",\"1\":\"a\",\"1\":[\"b\"]\x7d"

/-- A document without any content. -/
def emptyMarkup : String := "<!DOCTYPE html>\n<html><head></head><body></body></html>"

/-- The root of the document. -/
def emptyRoot : Element :=
  .mk (.tag "html") [] "" [.mk (.tag "head") [] "" [] "", .mk (.tag "body") [] "" [] ""] ""

theorem emptyMarkup_isLegibleText : Markup.IsLegibleText emptyMarkup := by
  have hread : Markup.read? emptyMarkup = some emptyRoot := by decide +kernel
  exact ⟨emptyRoot, isLegible_of_read? hread ⟨"html", rfl, by decide, by decide⟩, by decide +kernel⟩

/-- Of keys with the same name, only one is read, and tuples are read as lists. -/
theorem numberedPage_reads_otherwise :
    Markup.IsLegibleText emptyMarkup ∧ ∃ p wrapped,
      numberedPage.injectText .standard standardContext emptyMarkup =
        .ok ("<!DOCTYPE html>\n<html><head>" ++ scriptStart ++ numberedContent ++ scriptEnd ++
          "</head><body></body></html>", p) ∧
      p.document = some (.mk (.tag "html") [] "" [
        .mk (.tag "head") [] "" [dataScript numberedContent] "", .mk (.tag "body") [] "" [] ""] "") ∧
      numberedPage.declared?.map (wrap standardContext) = some (.ok wrapped) ∧
      Json.read? numberedContent = some (.map [(contextKey, .str standardContext), (.str "1", .list [.str "b"])]) ∧
      Json.read? numberedContent ≠ some wrapped := by
  refine ⟨emptyMarkup_isLegibleText, { numberedPage with document := some (.mk (.tag "html") [] "" [
      .mk (.tag "head") [] "" [dataScript numberedContent] "", .mk (.tag "body") [] "" [] ""] "") },
    .map [(contextKey, .str standardContext), (.scalar (.int 1), .str "a"), (.str "1", .tuple [.str "b"])],
    ?_, rfl, rfl, ?_, ?_⟩
  · decide +kernel
  · decide +kernel
  · decide +kernel

end LinkedData.Page
