import LinkedData.Page
import LinkedData.Proofs.Document.Injection
import LinkedData.Proofs.Wrapping

/-!
# Failures of an injection

* `Page.Obstructs`: what keeps a tree out of every document: a part without a form in JSON, or a text with characters
  that no document may hold;
* `Page.Hinders`: what stands in the way of an injection, and `Page.inject_failsBy`: it fails for that and for nothing
  else;
* `Page.inject_cases`: a failed injection leaves the page as it was;
* `Page.inject_failure_named_iff`: the failure names the page only if the tree is none that a context can be attached
  to, and then if what is wrong with it can be written out.
-/

namespace LinkedData.Page

open Text

/-! ### texts of documents -/

section Texts

variable {s text : String} {v : Value} {e : Failure}

theorem obstacleIn?_eq_none_iff :
    obstacleIn? s = none ↔ holdsHalf s.toList = false ∧ ∀ c ∈ s.toList, isDocumentChar c = true := by
  rw [obstacleIn?, ← List.all_eq_true]
  cases holdsHalf s.toList with
  | true => exact iff_of_false (fun h => nomatch h) fun h => nomatch h.1
  | false =>
    cases s.toList.all isDocumentChar with
    | true => exact iff_of_true rfl ⟨rfl, rfl⟩
    | false => exact iff_of_false (fun h => nomatch h) fun h => nomatch h.2

theorem obstacleIn?_eq_half_iff : obstacleIn? s = some .halfCharacter ↔ holdsHalf s.toList = true := by
  rw [obstacleIn?]
  cases holdsHalf s.toList with
  | true => exact iff_of_true rfl rfl
  | false =>
    refine iff_of_false (fun h => ?_) Bool.false_ne_true
    rw [if_neg Bool.false_ne_true] at h
    split at h <;> cases h

theorem obstacleIn?_eq_some (h : obstacleIn? s = some e) : e = .halfCharacter ∨ e = .notDocumentText := by
  rw [obstacleIn?] at h
  split at h
  · exact Or.inl (Option.some.inj h).symm
  · split at h
    · cases h
    · exact Or.inr (Option.some.inj h).symm

theorem isDocumentChar_of_isPlain {c : Char} (hc : IsPlain c) : isDocumentChar c = true := by
  unfold IsPlain at hc
  have hfirst : c.toNat ≠ 0xFFFE := by omega
  have hsecond : c.toNat ≠ 0xFFFF := by omega
  rw [isDocumentChar, bne_iff_ne.mpr hfirst, bne_iff_ne.mpr hsecond, Bool.and_self]

/-- The text of a tree can be put into a document if the texts in the tree can. -/
theorem obstacleIn?_serialize_eq_none_iff (h : Json.serialize v = .ok text) :
    obstacleIn? text = none ↔ ∀ x ∈ v.parts, ∀ s ∈ x.texts, obstacleIn? s = none := by
  have hhalf := Json.separable_serialize_iff separable_holdsHalf h
  have hchars := Json.separable_serialize_iff (separable_forall_mem fun c => isDocumentChar_of_isPlain (c := c)) h
  simp only [obstacleIn?_eq_none_iff, hhalf, hchars]
  constructor
  · exact fun hboth x hx s hs => ⟨hboth.1 x hx s hs, hboth.2 x hx s hs⟩
  · exact fun hboth => ⟨fun x hx s hs => (hboth x hx s hs).1, fun x hx s hs => (hboth x hx s hs).2⟩

/-- What keeps the text of a tree out of a document keeps a text in the tree out of it. -/
theorem obstacleIn?_serialize_eq_some (h : Json.serialize v = .ok text) (he : obstacleIn? text = some e) :
    ∃ x ∈ v.parts, ∃ s ∈ x.texts, obstacleIn? s = some e := by
  by_contra hnot
  have hnone : ∀ x ∈ v.parts, ∀ s ∈ x.texts, obstacleIn? s ≠ some e := by
    intro x hx s hs hobstacle
    exact hnot ⟨x, hx, s, hs, hobstacle⟩
  have hhalf := Json.separable_serialize_iff separable_holdsHalf h
  rcases obstacleIn?_eq_some he with rfl | rfl
  · have hall : holdsHalf text.toList = false := by
      refine hhalf.mpr fun x hx s hs => Bool.eq_false_iff.mpr fun hheld => ?_
      exact hnone x hx s hs (obstacleIn?_eq_half_iff.mpr hheld)
    rw [obstacleIn?_eq_half_iff.mp he] at hall
    cases hall
  · have hheld : holdsHalf text.toList = false := by
      refine Bool.eq_false_iff.mpr fun hheld => ?_
      rw [obstacleIn?_eq_half_iff.mpr hheld] at he
      cases he
    have hall : ∀ x ∈ v.parts, ∀ s ∈ x.texts, obstacleIn? s = none := by
      intro x hx s hs
      refine Option.eq_none_iff_forall_not_mem.mpr fun e' he' => ?_
      rcases obstacleIn?_eq_some he' with rfl | rfl
      · have hs' := hhalf.mp hheld x hx s hs
        rw [obstacleIn?_eq_half_iff.mp he'] at hs'
        cases hs'
      · exact hnone x hx s hs he'
    rw [(obstacleIn?_serialize_eq_none_iff h).mpr hall] at he
    cases he

end Texts

/-! ### what stands in the way -/

/-- What keeps a tree out of every document: a part that has no form in JSON, or a text that no document may hold. -/
def Obstructs (w : Value) (e : Failure) : Prop :=
  ∃ x ∈ w.parts, e ∈ x.obstacles ∨ ∃ s ∈ x.texts, obstacleIn? s = some e

section Injection

variable {p p' : Page} {root : Element} {tree w : Value} {context : String} {e : Failure}

/-- Nothing of that names a page, not even when it is reported for one. -/
theorem Obstructs.not_named (h : Obstructs w e) (url : String) : e.onPage url = e ∧ ¬ e.Names url := by
  have hkinds : e ∈ [.overlongInteger, .numberNotFinite, .notEncodable, .halfCharacter, .notDocumentText] := by
    obtain ⟨x, _, hobstacle | ⟨s, _, htext⟩⟩ := h
    · rcases Value.mem_obstacles hobstacle with rfl | rfl | rfl <;> decide
    · rcases obstacleIn?_eq_some htext with rfl | rfl <;> decide
  simp only [List.mem_cons, List.not_mem_nil, or_false] at hkinds
  rcases hkinds with rfl | rfl | rfl | rfl | rfl <;> exact ⟨rfl, fun ⟨_, h⟩ => nomatch h⟩

theorem render_of_wrap (h : wrap context tree = .ok w) : render context tree = Json.serialize w := by
  rw [render, h]
  rfl

/-- What stands in the way of the declared tree: something that is no object where a context asks for one, as it is
reported for the page, or what obstructs the tree as it is wrapped. -/
def Hinders (context : String) (p : Page) (e : Failure) : Prop :=
  ∃ tree, p.declared? = some tree ∧
    ((∃ x, tree.nonObject? = some x ∧ e = (Failure.ofFault (.unsupported x)).onPage p.url) ∨
      ∃ w, wrap context tree = .ok w ∧ Obstructs w e)

theorem hinders_iff (htree : p.declared? = some tree) : p.Hinders context e ↔
    (∃ x, tree.nonObject? = some x ∧ e = (Failure.ofFault (.unsupported x)).onPage p.url) ∨
      ∃ w, wrap context tree = .ok w ∧ Obstructs w e := by
  constructor
  · rintro ⟨tree', htree', hin⟩
    obtain rfl := Option.some.inj (htree'.symm.trans htree)
    exact hin
  · exact fun hin => ⟨tree, htree, hin⟩

/-- A tree that is wrapped is put into a document unless something obstructs it. -/
theorem inject_failsBy_of_wrap (htree : p.declared? = some tree) (hdocument : p.document = some root)
    (hroot : root.isDataScript = false) (hwrap : wrap context tree = .ok w) :
    FailsBy (Obstructs w) (p.inject context).1 := by
  rw [inject, htree]
  simp only [render_of_wrap hwrap]
  have hwritten := Json.serialize_failsBy w
  cases htext : Json.serialize w with
  | error e =>
    rw [htext] at hwritten
    obtain ⟨x, hx, he⟩ := hwritten.of_error
    have hobstructs : Obstructs w e := ⟨x, hx, Or.inl he⟩
    simp only [(hobstructs.not_named p.url).1]
    exact FailsBy.error e hobstructs
  | ok text =>
    rw [htext] at hwritten
    simp only [hdocument]
    cases hobstacle : obstacleIn? text with
    | some e =>
      obtain ⟨x, hx, s, hs, he⟩ := obstacleIn?_serialize_eq_some htext hobstacle
      exact FailsBy.error e ⟨x, hx, Or.inr ⟨s, hs, he⟩⟩
    | none =>
      obtain ⟨document, hinjected, _⟩ := Element.injected?_of_root hroot text
      simp only [hinjected]
      refine FailsBy.ok true fun e ⟨x, hx, hin⟩ => ?_
      rcases hin with hpart | ⟨s, hs, hsome⟩
      · exact hwritten.ok_iff.mp ⟨text, rfl⟩ e ⟨x, hx, hpart⟩
      · rw [(obstacleIn?_serialize_eq_none_iff htext).mp hobstacle x hx s hs] at hsome
        cases hsome

theorem inject_failsBy (hdocument : p.document = some root) (hroot : root.isDataScript = false) :
    FailsBy (p.Hinders context) (p.inject context).1 := by
  cases htree : p.declared? with
  | none =>
    rw [inject, htree]
    refine FailsBy.ok false fun e ⟨tree, hsome, _⟩ => ?_
    rw [htree] at hsome
    cases hsome
  | some tree =>
    cases hwrap : wrap context tree with
    | error e =>
      obtain ⟨x, hx, rfl⟩ := wrap_eq_error.mp hwrap
      have hrender : render context tree = .error (.ofFault (.unsupported x)) := by
        rw [render, hwrap]
        rfl
      rw [inject, htree]
      simp only [hrender]
      exact FailsBy.error _ ((hinders_iff htree).mpr (Or.inl ⟨x, hx, rfl⟩))
    | ok w =>
      have hobject : tree.nonObject? = none := wrap_eq_ok_iff_nonObject?.mp ⟨w, hwrap⟩
      refine (inject_failsBy_of_wrap htree hdocument hroot hwrap).congr fun e => ?_
      rw [hinders_iff htree, hobject, hwrap]
      constructor
      · exact fun h => Or.inr ⟨w, rfl, h⟩
      · rintro (⟨x, hx, _⟩ | ⟨w', hw', h⟩)
        · cases hx
        · obtain rfl := Except.ok.inj hw'
          exact h

/-- What stands in the way names the page if it is no object and can be worded. -/
theorem Hinders.names_iff (h : p.Hinders context e) :
    e.Names p.url ↔ ∃ tree x, p.declared? = some tree ∧ tree.nonObject? = some x ∧ x.isWritable = true := by
  obtain ⟨tree, htree, ⟨x, hx, rfl⟩ | ⟨w, hwrap, hobstructs⟩⟩ := h
  · rw [onPage_ofFault_names_iff]
    constructor
    · exact fun hwritable => ⟨tree, x, htree, hx, hwritable⟩
    · rintro ⟨tree', x', htree', hx', hwritable⟩
      obtain rfl := Option.some.inj (htree'.symm.trans htree)
      obtain rfl := Option.some.inj (hx'.symm.trans hx)
      exact hwritable
  · refine iff_of_false (hobstructs.not_named p.url).2 fun ⟨tree', x, htree', hx, _⟩ => ?_
    obtain rfl := Option.some.inj (htree'.symm.trans htree)
    rw [wrap_eq_ok_iff_nonObject?.mp ⟨w, hwrap⟩] at hx
    cases hx

end Injection

/-! ### what a failure leaves -/

/-- The document of the page, if there is one, has a root that is no script of linked data. -/
def RootStays (p : Page) : Prop := ∀ root ∈ p.document, root.isDataScript = false

instance (p : Page) : Decidable p.RootStays := inferInstanceAs (Decidable (∀ root ∈ p.document, _))

/-- What an injection does to a page: nothing if it fails, else it changes no more than the document, whose root stays
no script. -/
theorem inject_cases {p : Page} (hroot : p.RootStays) (context : String) :
    (∃ e, p.inject context = (.error e, p)) ∨
      ∃ answer document, p.inject context = (.ok answer, { p with document := document }) ∧
        ∀ root ∈ document, root.isDataScript = false := by
  rw [inject]
  cases htree : p.declared? with
  | none => exact Or.inr ⟨false, p.document, rfl, hroot⟩
  | some tree =>
    cases hrender : render context tree with
    | error e =>
      simp only [hrender]
      exact Or.inl ⟨_, rfl⟩
    | ok text =>
      simp only [hrender]
      cases hdocument : p.document with
      | none => exact Or.inl ⟨_, rfl⟩
      | some root =>
        obtain ⟨document, hinjected, hdocument'⟩ := Element.injected?_of_root (hroot root hdocument) text
        simp only [hinjected]
        cases obstacleIn? text with
        | some e => exact Or.inl ⟨_, rfl⟩
        | none =>
          refine Or.inr ⟨true, some document, rfl, fun root' hroot' => ?_⟩
          obtain rfl := Option.mem_some_iff.mp hroot'
          exact hdocument'

/-! ### which failures name the page -/

/-- **Failures of an injection.** An injection into a document fails if something stands in its way: something that is
no object where a context asks for one, a part of the wrapped tree without a form in JSON, or a text in it that no
document may hold. The failure is one of these, and it names the page only in the first case, and only if what is no
object can be written out. -/
theorem inject_failure_named_iff {p : Page} {root : Element} (context : String) (hdocument : p.document = some root)
    (hroot : root.isDataScript = false) :
    ((∃ e, (p.inject context).1 = .error e) ↔ ∃ e, p.Hinders context e) ∧
      ∀ e, (p.inject context).1 = .error e → p.Hinders context e ∧
        (e.Names p.url ↔ ∃ tree x, p.declared? = some tree ∧ tree.nonObject? = some x ∧ x.isWritable = true) := by
  have hfails : FailsBy (p.Hinders context) (p.inject context).1 := inject_failsBy hdocument hroot
  refine ⟨hfails.error_iff, fun e he => ?_⟩
  rw [he] at hfails
  exact ⟨hfails.of_error, hfails.of_error.names_iff⟩

/-- A document without content. -/
def bareDocument : Element := .mk (.tag "html") [] "" [] ""

/-- A page whose tree is a list with something that is no object. -/
def mixedPage : Page := ⟨"/", [(.str declaredKey, .list [.map [], .str "name"])], some bareDocument⟩

theorem mixedPage_failure_named : ∃ e, (mixedPage.inject standardContext).1 = .error e ∧ e.Names mixedPage.url := by
  have hdocument : mixedPage.document = some bareDocument := rfl
  obtain ⟨hfails, hnamed⟩ := inject_failure_named_iff standardContext hdocument (by decide +kernel)
  have hfirst : (Value.list [.map [], .str "name"]).nonObject? = some (.str "name") := by decide +kernel
  obtain ⟨e, he⟩ := hfails.mpr ⟨_, _, rfl, Or.inl ⟨_, hfirst, rfl⟩⟩
  exact ⟨e, he, (hnamed e he).2.mpr ⟨_, _, rfl, hfirst, rfl⟩⟩

/-- A page whose tree holds a date. -/
def datedPage : Page :=
  ⟨"/a/", [(.str declaredKey, .map [(.str "d", .scalar (.date ⟨2024, 1, 31, by decide⟩))])], some bareDocument⟩

theorem datedPage_failure_unnamed : datedPage.document = some bareDocument ∧ bareDocument.isDataScript = false ∧
    ¬ ∀ e, (datedPage.inject standardContext).1 = .error e → e.Names datedPage.url := by
  refine ⟨rfl, by decide +kernel, fun h => ?_⟩
  have hfails : (datedPage.inject standardContext).1 = .error .notEncodable := by decide +kernel
  obtain ⟨f, hf⟩ := h _ hfails
  cases hf

end LinkedData.Page
