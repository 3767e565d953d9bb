import LinkedData.Proofs.Page.Batch
import LinkedData.Proofs.Page.Failure
import LinkedData.Proofs.Page.Injection
import LinkedData.Proofs.Page.Resolution

/-!
# What the first phase leaves to the second

Pages are resolved before they are rendered, and injected afterwards.

* `Value.FitsDocuments`: no integer is too long to be written, and a document may hold all texts;
* `Page.passes_inject_iff`: what resolution accepted can be put into every document if and only if it fits documents;
* `Page.second_phase_succeeds_iff`: the same of all pages of a site, and how many of them are changed.
-/

namespace LinkedData

/-- No integer of the value is too long to be written, and a document may hold all of its texts. -/
def Value.FitsDocuments (v : Value) : Prop :=
  v.isWritable = true ∧ ∀ x ∈ v.parts, ∀ s ∈ x.texts, Page.obstacleIn? s = none

instance (v : Value) : Decidable v.FitsDocuments := inferInstanceAs (Decidable (_ ∧ ∀ x ∈ v.parts, _))

namespace Page

variable {p p' q : Page} {r : Resolver} {normalize : UrlNormalizer} {root : Element} {tree v w : Value} {context : String}
  {answer : Bool}

/-! ### one page -/

/-- Nothing obstructs a value that has a form in JSON and fits documents. -/
theorem not_obstructs_iff (hw : w.IsEncodable) : (∀ e, ¬ Obstructs w e) ↔ w.FitsDocuments := by
  have hwritten : (∀ e, ¬ ∃ x ∈ w.parts, e ∈ x.obstacles) ↔ w.isWritable = true := by
    rw [← (Json.serialize_failsBy w).ok_iff]
    have hwrites := Json.writesIf_iff.mp (Json.serialize_writesIf hw)
    split at hwrites
    · next hwritable => exact iff_of_true hwrites hwritable
    · next hwritable =>
      rw [hwrites]
      exact iff_of_false (fun ⟨_, h⟩ => nomatch h) hwritable
  rw [Value.FitsDocuments, ← hwritten]
  constructor
  · intro h
    refine ⟨fun e ⟨x, hx, he⟩ => h e ⟨x, hx, Or.inl he⟩, fun x hx s hs => ?_⟩
    exact Option.eq_none_iff_forall_not_mem.mpr fun e he => h e ⟨x, hx, Or.inr ⟨s, hs, he⟩⟩
  · rintro ⟨hparts, htexts⟩ e ⟨x, hx, he | ⟨s, hs, he⟩⟩
    · exact hparts e ⟨x, hx, he⟩
    · rw [htexts x hx s hs] at he
      cases he

/-- A tree that resolution accepted can be put into a document if and only if it fits documents. -/
theorem passes_inject_iff (hresolved : p.IsResolved) (htree : p.declared? = some tree)
    (hdocument : p.document = some root) (hroot : root.isDataScript = false) (hcontext : obstacleIn? context = none) :
    Passes (inject context) p ↔ tree.FitsDocuments := by
  obtain ⟨hjson, hwrappable⟩ := hresolved tree htree
  obtain ⟨w, hwrap, hencodable, hwritable⟩ := wrap_isEncodable context hjson.isEncodable hwrappable
  have hkey : obstacleIn? "@context" = none := by decide +kernel
  have htexts := wrap_texts_iff (Q := fun s => obstacleIn? s = none) hjson.isEncodable hkey hcontext hwrap
  have hpasses : Passes (inject context) p ↔ ∀ e, ¬ Obstructs w e :=
    (inject_failsBy_of_wrap htree hdocument hroot hwrap).ok_iff
  rw [hpasses, not_obstructs_iff hencodable, Value.FitsDocuments, Value.FitsDocuments, hwritable, htexts]

/-- Where nothing fails, the answer is yes, and only the document is another one. -/
theorem passes_inject_iff_answer (hdeclares : p.declares = true) (hdocument : p.document = some root) :
    Passes (inject context) p ↔ ∃ document, p.inject context = (.ok true, { p with document := some document }) := by
  constructor
  · rintro ⟨answer, hanswer⟩
    have hinject : p.inject context = (.ok answer, (p.inject context).2) := Prod.ext hanswer rfl
    obtain ⟨_, _, document, _, _, _, _, rfl, hpage⟩ := (inject_eq_ok hdeclares hdocument).mp hinject
    exact ⟨document, by rw [hinject, ← hpage]⟩
  · rintro ⟨document, hinject⟩
    exact ⟨true, by rw [hinject]⟩

/-! ### all pages -/

/-- The page has the data of another one, and maybe a document, whose root is no script of linked data. -/
def IsRendering (p q : Page) : Prop := q.data = p.data ∧ q.RootStays

theorem IsRendering.declared? (h : IsRendering p q) : q.declared? = p.declared? := by
  rw [Page.declared?, Page.declared?, h.1]

theorem IsRendering.isResolved (h : IsRendering p q) (hp : p.IsResolved) : q.IsResolved := by
  intro tree htree
  rw [h.declared?] at htree
  exact hp tree htree

/-- The page declares a tree and has a document to put it into. -/
def isTarget (p : Page) : Bool := p.declares && p.document.isSome

theorem applies_process (h : Passes (process context) p) : applies (process context) p = p.isTarget := by
  obtain ⟨applied, hp⟩ := h
  rw [applies_of_ok hp, isTarget]
  rw [process] at hp
  cases hdocument : p.document with
  | none =>
    rw [hdocument] at hp
    obtain rfl := Except.ok.inj hp
    rw [Option.isSome_none, Bool.and_false]
  | some root =>
    rw [hdocument, Option.isSome_some, if_pos rfl] at hp
    rw [Option.isSome_some, Bool.and_true]
    cases hdeclares : p.declares with
    | false =>
      rw [inject_of_not_declares hdeclares] at hp
      exact (Except.ok.inj hp).symm
    | true =>
      obtain ⟨_, _, _, _, _, _, _, hanswer, _⟩ := (inject_eq_ok hdeclares hdocument).mp (Prod.ext hp rfl)
      exact hanswer

/-- A resolved page can be processed if what it declares fits its document. -/
theorem passes_process_iff (hresolved : p.IsResolved) (hroot : p.RootStays)
    (hcontext : obstacleIn? context = none) :
    Passes (process context) p ↔ (p.isTarget = true → ∀ tree, p.declared? = some tree → tree.FitsDocuments) := by
  cases hdocument : p.document with
  | none =>
    refine iff_of_true ⟨false, ?_⟩ fun htarget => ?_
    · rw [process, hdocument]
      rfl
    · rw [isTarget, hdocument, Option.isSome_none, Bool.and_false] at htarget
      cases htarget
  | some root =>
    have hprocess : Passes (process context) p ↔ Passes (inject context) p := by
      rw [Passes, process, hdocument]
      rfl
    rw [hprocess, isTarget, hdocument, Option.isSome_some, Bool.and_true]
    cases htree : p.declared? with
    | none =>
      have hdeclares : p.declares = false := by
        rw [declares, htree]
        rfl
      refine iff_of_true ⟨false, ?_⟩ fun h => ?_
      · rw [inject_of_not_declares hdeclares]
      · rw [hdeclares] at h
        cases h
    | some tree =>
      have hdeclares : p.declares = true := by
        rw [declares, htree]
        rfl
      rw [passes_inject_iff hresolved htree hdocument (hroot root hdocument) hcontext]
      constructor
      · rintro hfits _ tree' htree'
        obtain rfl := Option.some.inj htree'
        exact hfits
      · exact fun h => h hdeclares tree rfl

/-- Every page is resolved once resolution of all of them succeeds. -/
theorem preprocess_isResolved {pages pages' : List Page} {n : Nat} (h : preprocess r normalize pages = (.ok n, pages')) :
    ∀ p ∈ pages', p.IsResolved := by
  obtain ⟨hall, _, rfl⟩ := countPages_eq_ok_iff.mp h
  intro p' hp'
  obtain ⟨p, hp, rfl⟩ := List.mem_map.mp hp'
  obtain ⟨answer, hanswer⟩ := hall p hp
  exact (resolve_isResolved (Prod.ext hanswer rfl)).1

/-- **What the first phase leaves to the second.** A page with metadata still declares a tree after it is resolved, and
it can be put into every document, whatever the context, if the tree fits documents, and into none if it does not. So if
all pages are resolved and then rendered, injection succeeds exactly if the trees of all pages with a document fit, and
the answer is the number of pages with both. -/
theorem second_phase_succeeds_iff (r : Resolver) (normalize : UrlNormalizer) (context : String)
    (hcontext : obstacleIn? context = none) :
    (∀ (p : Page) (answer : Bool) (p' : Page), p.declares = true → p.resolve r normalize = (.ok answer, p') →
      ∃ tree, p'.declared? = some tree ∧ ∀ root : Element, root.isDataScript = false →
        ((∃ document, ({ p' with document := some root } : Page).inject context =
          (.ok true, { p' with document := some document })) ↔ tree.FitsDocuments)) ∧
    ∀ (pages : List Page) (n : Nat) (pages' rendered : List Page), preprocess r normalize pages = (.ok n, pages') →
      List.Forall₂ IsRendering pages' rendered →
        ((∃ m, (processDocuments context rendered).1 = .ok m) ↔
          ∀ p ∈ rendered, p.isTarget = true → ∀ tree, p.declared? = some tree → tree.FitsDocuments) ∧
        ∀ m, (processDocuments context rendered).1 = .ok m → m = rendered.countP isTarget := by
  constructor
  · intro p answer p' hdeclares h
    obtain ⟨hresolved, hstill, _⟩ := resolve_isResolved h
    rw [hdeclares] at hstill
    obtain ⟨tree, htree⟩ := Option.isSome_iff_exists.mp hstill
    refine ⟨tree, htree, fun root hroot => ?_⟩
    have hpasses := passes_inject_iff (p := { p' with document := some root }) hresolved htree rfl hroot hcontext
    rw [← hpasses]
    exact (passes_inject_iff_answer (p := { p' with document := some root }) hstill rfl).symm
  · intro pages n pages' rendered h hrendered
    have hpasses : ∀ q ∈ rendered, Passes (process context) q ↔
        (q.isTarget = true → ∀ tree, q.declared? = some tree → tree.FitsDocuments) := by
      intro q hq
      obtain ⟨p, hp, hrendering⟩ := exists_left_of_mem hrendered hq
      exact passes_process_iff (hrendering.isResolved (preprocess_isResolved h p hp)) hrendering.2 hcontext
    constructor
    · rw [← forall₂_congr hpasses]
      constructor
      · rintro ⟨m, hm⟩
        exact (countPages_eq_ok_iff.mp (Prod.ext hm rfl)).1
      · intro hall
        exact ⟨_, congrArg Prod.fst (countPages_of_all hall)⟩
    · intro m hm
      obtain ⟨hall, rfl, _⟩ := countPages_eq_ok_iff.mp (Prod.ext hm rfl)
      exact List.countP_congr fun q hq => by rw [applies_process (hall q hq)]

/-- A page with a lookup and a document. -/
def noticePage : Page :=
  ⟨"/notice/", [(.str "title", .str "Notice"), (.str declaredKey, .map [(.str "name", .str "lume-data:title")])],
    some bareDocument⟩

theorem noticePage_second_phase :
    (preprocess .standard exampleSite.url [noticePage]).1 = .ok 1 ∧
      (processDocuments standardContext (preprocess .standard exampleSite.url [noticePage]).2).1 = .ok 1 := by
  have hfirst : preprocess .standard exampleSite.url [noticePage] =
      (.ok 1, [noticePage.set declaredKey (.map [(.str "name", .str "Notice")])]) := by decide +kernel
  obtain ⟨_, hall⟩ := second_phase_succeeds_iff .standard exampleSite.url standardContext (by decide +kernel)
  obtain ⟨hiff, hcount⟩ := hall _ _ _ _ hfirst
    (List.Forall₂.cons ⟨rfl, by decide +kernel⟩ List.Forall₂.nil)
  obtain ⟨m, hm⟩ := hiff.mpr (by decide +kernel)
  obtain rfl := hcount m hm
  rw [hfirst]
  exact ⟨rfl, hm⟩

/-- A page whose tree holds a character that no document may hold. -/
def markedPage : Page := ⟨"/", [(.str declaredKey, .map [(.str "name", .str "\uffff")])], none⟩

/-- Resolution accepts the page, and injection fails. -/
theorem markedPage_second_phase_fails :
    markedPage.resolve .standard exampleSite.url = (.ok true, markedPage) ∧
      bareDocument.isDataScript = false ∧ obstacleIn? standardContext = none ∧
      ¬ ∃ answer p', ({ markedPage with document := some bareDocument } : Page).inject standardContext =
        (.ok answer, p') := by
  have hfails : (({ markedPage with document := some bareDocument } : Page).inject standardContext).1 =
      .error .notDocumentText := by decide +kernel
  refine ⟨by decide +kernel, by decide +kernel, by decide +kernel, ?_⟩
  rintro ⟨answer, p', h⟩
  rw [h] at hfails
  cases hfails

end Page

end LinkedData
