import LinkedData.Page
import LinkedData.Proofs.Document.Injection
import LinkedData.Proofs.Outcome

/-!
# Metadata in documents

* `Page.inject_eq_ok`: what it takes to put the tree of a page into its document;
* `Page.inject_places_one_script`: afterwards the document holds one script of linked data, at its place;
* `Page.inject_keeps_rest`: everything else stays as it was;
* `Page.last_injection_wins`: of several trees put into one document, the last one counts.

A page holds the whole tree that its document belongs to, so it makes no difference which element of the tree stands for
the document.
-/

namespace LinkedData.Page

open Element

variable {p p' : Page} {root : Element} {context : String} {answer : Bool}

theorem inject_of_not_declares (h : p.declares = false) : p.inject context = (.ok false, p) := by
  have hnone : p.declared? = none := by
    rw [declares, Option.isSome_eq_false_iff, Option.isNone_iff_eq_none] at h
    exact h
  rw [inject, hnone]

/-- What it takes to put a declared tree into a document. -/
theorem inject_eq_ok (hdeclares : p.declares = true) (hdocument : p.document = some root) :
    p.inject context = (.ok answer, p') ↔
      ∃ tree text document, p.declared? = some tree ∧ render context tree = .ok text ∧ obstacleIn? text = none ∧
        root.injected? text = some document ∧ answer = true ∧ { p with document := some document } = p' := by
  obtain ⟨tree, htree⟩ := Option.isSome_iff_exists.mp hdeclares
  rw [inject, htree]
  cases hrender : render context tree with
  | error e => simp [hrender]
  | ok text =>
    simp only [hrender, hdocument]
    cases hobstacle : obstacleIn? text with
    | some e => simp [hobstacle, hrender]
    | none =>
      cases hinjected : root.injected? text with
      | none => simp [hobstacle, hinjected, hrender]
      | some document => simp [hobstacle, hinjected, hrender, eq_comm]

/-! ### the script -/

/-- **One script, at its place.** If a declared tree can be put into a document, the answer is yes, and the document
holds one script of linked data afterwards, whose content is the text of the tree and which no text follows. It stands
in the first head, which is new if there was none: behind the first title as its next sibling, or at the end if the
head has no title. -/
theorem inject_places_one_script (hdeclares : p.declares = true) (hdocument : p.document = some root)
    (hroot : root.isDataScript = false) (hheads : root.HeadsOutside) (h : p.inject context = (.ok answer, p')) :
    answer = true ∧ ∃ tree text document a head place,
      p.declared? = some tree ∧ render context tree = .ok text ∧ p'.document = some document ∧
      IsOnly isDataScript document (a ++ place) (dataScript text) ∧
      IsFirst isHead document a head ∧ IsTargetHead root a head ∧ IsScriptPlace head place := by
  obtain ⟨tree, text, document, htree, htext, _, hinjected, rfl, rfl⟩ := (inject_eq_ok hdeclares hdocument).mp h
  obtain ⟨document', a, head, place, hinjected', _, hfirst, htarget, hplace, honly, _, _⟩ :=
    injected?_spec hroot hheads text
  obtain rfl : document' = document := Option.some.inj (hinjected'.symm.trans hinjected)
  exact ⟨rfl, tree, text, document', a, head, place, htree, htext, rfl, honly, hfirst, htarget, hplace⟩

/-- A document with two heads and three scripts of linked data: two in a row, the second of them with a title in it,
and one inside of the body. -/
def crowdedDocument : Element :=
  .mk (.tag "html") [] "\n" [
    .mk (.tag "head") [("id", some "first")] "" [
      dataScript "1" |>.appendTail "a",
      .mk (.tag "script") [("type", some dataScriptType)] "" [.mk (.tag "title") [] "old" [] ""] "b",
      .mk (.tag "title") [] "new" [] "c",
      .mk .comment [] "d" [] "e"] "f",
    .mk (.tag "body") [] "g" [
      .mk (.tag "p") [] "h" [dataScript "2" |>.appendTail "i", .mk (.tag "head") [] "" [] "j"] "k"] "l"] ""

/-- A page with this document. -/
def crowdedPage : Page :=
  ⟨"/", [(.str declaredKey, .map [(.str "name", .str "</script>")])], some crowdedDocument⟩

theorem crowdedPage_has_one_script :
    crowdedPage.inject "c" = (.ok true, (crowdedPage.inject "c").2) ∧ ∃ text document a head place,
      (crowdedPage.inject "c").2.document = some document ∧
      IsOnly isDataScript document (a ++ place) (dataScript text) ∧
      IsFirst isHead document a head ∧ IsTargetHead crowdedDocument a head ∧ IsScriptPlace head place := by
  have h : crowdedPage.inject "c" = (.ok true, (crowdedPage.inject "c").2) := by decide +kernel
  obtain ⟨_, _, text, document, a, head, place, _, _, hspec⟩ :=
    inject_places_one_script (by decide +kernel) (show crowdedPage.document = some crowdedDocument from rfl)
      (by decide +kernel) (by decide +kernel) h
  exact ⟨h, text, document, a, head, place, hspec⟩

/-! ### the rest -/

/-- **Nothing else changes.** A document keeps its skeleton, which is all of it but its scripts of linked data; the text
after a dropped script joins the text before it. If it had no head, there is an empty one behind the text of the root.
Neither does the page change otherwise, and nothing changes if no tree is declared. -/
theorem inject_keeps_rest (hdocument : p.document = some root) (hroot : root.isDataScript = false)
    (hheads : root.HeadsOutside) (h : p.inject context = (.ok answer, p')) :
    ∃ document, p' = { p with document := some document } ∧ document.tail = root.tail ∧
      document.skeleton =
        if answer && !any isHead root then
          .element root.kind root.attributes
            (textNodes root.text ++ .element (.tag "head") [] [] :: contentL root.children)
        else root.skeleton := by
  cases hdeclares : p.declares with
  | false =>
    rw [inject_of_not_declares hdeclares] at h
    obtain ⟨hanswer, rfl⟩ := Prod.mk.inj h
    obtain rfl := Except.ok.inj hanswer
    exact ⟨root, by rw [← hdocument], rfl, rfl⟩
  | true =>
    obtain ⟨tree, text, document, _, _, _, hinjected, rfl, rfl⟩ := (inject_eq_ok hdeclares hdocument).mp h
    obtain ⟨document', _, _, _, hinjected', _, _, _, _, _, hskeleton, htail⟩ := injected?_spec hroot hheads text
    obtain rfl : document' = document := Option.some.inj (hinjected'.symm.trans hinjected)
    refine ⟨document', rfl, ?_, ?_⟩
    · rw [htail, tail_ensureHead]
    · rw [hskeleton, skeleton_ensureHead, Bool.true_and]

theorem crowdedPage_keeps_rest :
    ∃ document, (crowdedPage.inject "c").2 = { crowdedPage with document := some document } ∧
      document.skeleton = crowdedDocument.skeleton := by
  have h : crowdedPage.inject "c" = (.ok true, (crowdedPage.inject "c").2) := by decide +kernel
  obtain ⟨document, hpage, _, hskeleton⟩ :=
    inject_keeps_rest (show crowdedPage.document = some crowdedDocument from rfl) (by decide +kernel)
      (by decide +kernel) h
  exact ⟨document, hpage, hskeleton.trans (if_neg (by decide +kernel))⟩

/-! ### one tree after another -/

/-- The document with the tree of a page in it. -/
def injectInto (context : String) (p : Page) (root : Element) : Option Element :=
  match ({ p with document := some root } : Page).inject context with
  | (.ok _, p') => p'.document
  | (.error _, _) => none

/-- The document with the trees of several pages put into it one after the other, each with its context. -/
def injectEach (jobs : List (Page × String)) (root : Element) : Option Element :=
  jobs.foldlM (fun document job => job.1.injectInto job.2 document) root

section Rebuild

variable {document : Element} {q : Page} {c : String}

theorem injectInto_of_not_declares (h : p.declares = false) : p.injectInto context root = some root := by
  have hsame : ({ p with document := some root } : Page).declares = false := h
  rw [injectInto, inject_of_not_declares hsame]

theorem injectInto_eq_some (hdeclares : p.declares = true) : p.injectInto context root = some document ↔
    ∃ tree text, p.declared? = some tree ∧ render context tree = .ok text ∧ obstacleIn? text = none ∧
      root.injected? text = some document := by
  have hok (answer : Bool) (p' : Page) :=
    @inject_eq_ok { p with document := some root } p' root context answer hdeclares rfl
  constructor
  · intro h
    rw [injectInto] at h
    split at h
    · next answer p' hinject =>
      obtain ⟨tree, text, document', htree, htext, hobstacle, hinjected, _, rfl⟩ := (hok answer p').mp hinject
      obtain rfl := Option.some.inj h
      exact ⟨tree, text, htree, htext, hobstacle, hinjected⟩
    · cases h
  · rintro ⟨tree, text, htree, htext, hobstacle, hinjected⟩
    have h := (hok _ _).mpr ⟨tree, text, document, htree, htext, hobstacle, hinjected, rfl, rfl⟩
    rw [injectInto, h]

/-- What was put into a document before makes no difference. -/
theorem injectInto_injectInto (p : Page) (context : String) (hroot : root.isDataScript = false)
    (hheads : root.HeadsOutside) (h : q.injectInto c root = some document) :
    document.isDataScript = false ∧ document.HeadsOutside ∧
      (p.declares = true → p.injectInto context document = p.injectInto context root) := by
  cases hdeclares : q.declares with
  | false =>
    rw [injectInto_of_not_declares hdeclares] at h
    obtain rfl := Option.some.inj h
    exact ⟨hroot, hheads, fun _ => rfl⟩
  | true =>
    obtain ⟨_, text, _, _, _, hinjected⟩ := (injectInto_eq_some hdeclares).mp h
    obtain ⟨hroot', hheads', hagain⟩ := injected?_injected? hroot hheads hinjected
    refine ⟨hroot', hheads', fun hp => Option.ext fun final => ?_⟩
    simp only [injectInto_eq_some hp, hagain]

/-- However many trees were put into a document before, the last one counts. -/
theorem injectEach_concat {jobs : List (Page × String)} (hroot : root.isDataScript = false)
    (hheads : root.HeadsOutside) (hjobs : ∀ job ∈ jobs, (job.1.injectInto job.2 root).isSome = true)
    (hp : p.declares = true) : injectEach (jobs ++ [(p, context)]) root = p.injectInto context root := by
  induction jobs generalizing root with
  | nil =>
    show (p.injectInto context root).bind some = _
    rw [Option.bind_fun_some]
  | cons job jobs ih =>
    obtain ⟨hjob, hmore⟩ := List.forall_mem_cons.mp hjobs
    obtain ⟨document, hdocument⟩ := Option.isSome_iff_exists.mp hjob
    obtain ⟨hroot', hheads', hlast⟩ := injectInto_injectInto p context hroot hheads hdocument
    have hmore' : ∀ job ∈ jobs, (job.1.injectInto job.2 document).isSome = true := by
      intro next hnext
      cases hdeclares : next.1.declares with
      | false => rw [injectInto_of_not_declares hdeclares, Option.isSome_some]
      | true =>
        obtain ⟨_, _, hsame⟩ := injectInto_injectInto next.1 next.2 hroot hheads hdocument
        rw [hsame hdeclares]
        exact hmore next hnext
    show (job.1.injectInto job.2 root).bind (injectEach (jobs ++ [(p, context)])) = _
    rw [hdocument, Option.bind_some, ih hroot' hheads' hmore', hlast hp]

end Rebuild

/-- **The last injection wins.** A document that the tree of another page was put into before ends up the very same
as without that, and so does one that any number of trees were put into. -/
theorem last_injection_wins {document : Element} (hroot : root.isDataScript = false) (hheads : root.HeadsOutside)
    (hp : p.declares = true) (h : p.injectInto context root = some document) :
    (∀ (q : Page) (c : String) (earlier : Element), q.injectInto c root = some earlier →
      p.injectInto context earlier = some document) ∧
    ∀ jobs : List (Page × String), (∀ job ∈ jobs, (job.1.injectInto job.2 root).isSome = true) →
      injectEach (jobs ++ [(p, context)]) root = some document := by
  constructor
  · intro q c earlier hearlier
    obtain ⟨_, _, hsame⟩ := injectInto_injectInto p context hroot hheads hearlier
    exact (hsame hp).trans h
  · intro jobs hjobs
    exact (injectEach_concat hroot hheads hjobs hp).trans h

/-- An older form of the page. -/
def olderPage : Page := { crowdedPage with data := [(.str declaredKey, .list [.map [(.str "name", .str "old")]])] }

theorem crowdedPage_wins :
    ∃ document earlier, crowdedPage.injectInto "c" crowdedDocument = some document ∧
      olderPage.injectInto "d" crowdedDocument = some earlier ∧ crowdedPage.injectInto "c" earlier = some document ∧
      injectEach [(olderPage, "d"), (crowdedPage, "c"), (crowdedPage, "c")] crowdedDocument = some document := by
  have hsome : (crowdedPage.injectInto "c" crowdedDocument).isSome = true := by decide +kernel
  have holder : (olderPage.injectInto "d" crowdedDocument).isSome = true := by decide +kernel
  obtain ⟨document, h⟩ := Option.isSome_iff_exists.mp hsome
  obtain ⟨earlier, hearlier⟩ := Option.isSome_iff_exists.mp holder
  obtain ⟨htwo, hmany⟩ := last_injection_wins (by decide +kernel) (by decide +kernel) (by decide +kernel) h
  refine ⟨document, earlier, h, hearlier, htwo _ _ _ hearlier, hmany [(olderPage, "d"), (crowdedPage, "c")] ?_⟩
  exact List.forall_mem_cons.mpr ⟨holder, List.forall_mem_singleton.mpr hsome⟩

end LinkedData.Page
