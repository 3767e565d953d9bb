import LinkedData.Proofs.Document.Kind
import LinkedData.Proofs.Document.Legible
import LinkedData.Proofs.Template

/-!
# Injected documents read back

Only legible documents are read, and what an injection makes of a legible document is legible again, provided that no
tag begins in the content of the script. So a document can be written after an injection and injected into again.

* `Markup.Legible.withChildren`: elements that hold elements may hold any others;
* `Markup.Legible.headsOutside`: no head is inside of a script, since scripts hold no elements;
* `Markup.Legible.injected?`: a legible document stays legible;
* `Markup.legibleKind`, `MarkupLibrary.standard_inverseOn`: so legible documents are a kind, on which the library that
  the program runs with can be relied on.
-/

namespace LinkedData.Markup

open Element

section Legible

variable {e x new : Element} {es cs : List Element} {a : Address} {content : String}

/-! ### elements with elements -/

/-- The content of the element is not only text, and there is one. -/
def HoldsElements (e : Element) : Prop :=
  ∃ name, e.kind = .tag name ∧ voidTags.contains name = false ∧ rawTags.contains name = false

theorem holdsElements_of_hasTag {name : String} (h : e.hasTag name = true)
    (hvoid : voidTags.contains name = false) (hraw : rawTags.contains name = false) : HoldsElements e :=
  ⟨name, by simpa [hasTag] using h, hvoid, hraw⟩

/-- Scripts hold only text. -/
theorem HoldsElements.not_isDataScript (h : HoldsElements e) : e.isDataScript = false := by
  obtain ⟨name, hkind, _, hraw⟩ := h
  rw [Bool.eq_false_iff]
  intro hscript
  rw [isDataScript, Bool.and_eq_true] at hscript
  have hname : e.kind = .tag "script" := by simpa [hasTag] using hscript.1
  obtain rfl := ElementKind.tag.inj (hkind.symm.trans hname)
  exact absurd hraw (by decide)

namespace Legible

theorem children (h : Legible e) : ∀ c ∈ e.children, Legible c := by
  cases h with
  | parent _ _ _ _ _ hchildren => exact hchildren
  | comment => exact List.forall_mem_nil _
  | void => exact List.forall_mem_nil _
  | raw => exact List.forall_mem_nil _

/-- All that is below a legible element is legible. -/
theorem of_at? (h : Legible e) (hx : e.at? a = some x) : Legible x := by
  induction a generalizing e with
  | nil =>
    obtain rfl := Option.some.inj hx
    exact h
  | cons i a ih =>
    obtain ⟨c, hc, hx⟩ := at?_cons_eq_some.mp hx
    exact ih (h.children c (List.mem_of_getElem? hc)) hx

theorem holdsElements (h : Legible e) (hne : e.children ≠ []) : HoldsElements e := by
  cases h with
  | parent hvoid hraw => exact ⟨_, rfl, hvoid, hraw⟩
  | comment => exact absurd rfl hne
  | void => exact absurd rfl hne
  | raw => exact absurd rfl hne

/-- Elements that hold elements may hold any others. -/
theorem withChildren (h : Legible e) (hholds : HoldsElements e) (hcs : ∀ c ∈ cs, Legible c) :
    Legible (e.withChildren cs) := by
  obtain ⟨_, hkind, hnotVoid, hnotRaw⟩ := hholds
  cases h with
  | parent hvoid hraw hname hattributes htext _ htail =>
    exact .parent hvoid hraw hname hattributes htext hcs htail
  | comment => cases hkind
  | void hvoid =>
    obtain rfl := ElementKind.tag.inj hkind
    rw [hnotVoid] at hvoid
    cases hvoid
  | raw _ hraw =>
    obtain rfl := ElementKind.tag.inj hkind
    rw [hnotRaw] at hraw
    cases hraw

/-- Scripts hold no elements, and so no heads. -/
theorem headsOutside (h : Legible e) : e.HeadsOutside := by
  rw [HeadsOutside, Bool.eq_false_iff]
  intro hinside
  obtain ⟨a, x, hx, hboth⟩ := any_iff.mp hinside
  obtain ⟨hscript, hhead⟩ := Bool.and_eq_true_iff.mp hboth
  have hne : x.children ≠ [] := by
    intro hnil
    rw [hnil] at hhead
    cases hhead
  rw [((h.of_at? hx).holdsElements hne).not_isDataScript] at hscript
  cases hscript

/-! ### dropping scripts -/

theorem dropScriptsL (hes : ∀ e ∈ es, Legible e) (hdropped : ∀ e ∈ es, Legible (Element.dropScripts e)) :
    IsText (Element.dropScriptsL es).1 ∧ ∀ c ∈ (Element.dropScriptsL es).2, Legible c := by
  induction es with
  | nil => exact ⟨isText_empty, List.forall_mem_nil _⟩
  | cons e es ih =>
    obtain ⟨he, hes⟩ := List.forall_mem_cons.mp hes
    obtain ⟨hdrop, hdropped⟩ := List.forall_mem_cons.mp hdropped
    obtain ⟨htext, hleft⟩ := ih hes hdropped
    rw [Element.dropScriptsL]
    split
    · exact ⟨he.isText_tail.append htext, hleft⟩
    · exact ⟨isText_empty, List.forall_mem_cons.mpr ⟨hdrop.appendTail htext, hleft⟩⟩

theorem dropScripts (h : Legible e) : Legible (Element.dropScripts e) := by
  induction h with
  | comment htext htail => simpa [Element.dropScripts, Element.dropScriptsL] using Legible.comment htext htail
  | void hvoid hname hattributes htail =>
    simpa [Element.dropScripts, Element.dropScriptsL] using Legible.void hvoid hname hattributes htail
  | raw hvoid hraw hname hattributes htext htail =>
    simpa [Element.dropScripts, Element.dropScriptsL] using Legible.raw hvoid hraw hname hattributes htext htail
  | parent hvoid hraw hname hattributes htext hchildren htail ih =>
    obtain ⟨hmore, hleft⟩ := Legible.dropScriptsL hchildren ih
    exact .parent hvoid hraw hname hattributes (htext.append hmore) hleft htail

end Legible

/-! ### placing a script -/

section Placing

variable {P : Element → Prop}

/-- What holds of siblings, of the script and of siblings that the script is placed below holds of the outcome. -/
theorem forall_placeAfterTitleL? (hnew : P new) (hes : ∀ e ∈ es, P e)
    (heach : ∀ e ∈ es, ∀ e', placeAfterTitle? new e = some e' → P e') (h : placeAfterTitleL? new es = some cs) :
    ∀ c ∈ cs, P c := by
  induction es generalizing cs with
  | nil => cases h
  | cons e es ih =>
    obtain ⟨he, hes⟩ := List.forall_mem_cons.mp hes
    obtain ⟨hplaced, heach⟩ := List.forall_mem_cons.mp heach
    rw [placeAfterTitleL?] at h
    split at h
    · obtain rfl := Option.some.inj h
      exact List.forall_mem_cons.mpr ⟨he, List.forall_mem_cons.mpr ⟨hnew, hes⟩⟩
    · split at h
      · next e' he' =>
        obtain rfl := Option.some.inj h
        exact List.forall_mem_cons.mpr ⟨hplaced e' he', hes⟩
      · obtain ⟨more, hmore, rfl⟩ := Option.map_eq_some_iff.mp h
        exact List.forall_mem_cons.mpr ⟨he, ih hes heach hmore⟩

/-- The same of a script that is placed in the first head. -/
theorem forall_placeInFirstHeadL? (hes : ∀ e ∈ es, P e)
    (heach : ∀ e ∈ es, ∀ e', placeInFirstHead? new e = some e' → P e') (h : placeInFirstHeadL? new es = some cs) :
    ∀ c ∈ cs, P c := by
  induction es generalizing cs with
  | nil => cases h
  | cons e es ih =>
    obtain ⟨he, hes⟩ := List.forall_mem_cons.mp hes
    obtain ⟨hplaced, heach⟩ := List.forall_mem_cons.mp heach
    rw [placeInFirstHeadL?] at h
    split at h
    · next e' he' =>
      obtain rfl := Option.some.inj h
      exact List.forall_mem_cons.mpr ⟨hplaced e' he', hes⟩
    · obtain ⟨more, hmore, rfl⟩ := Option.map_eq_some_iff.mp h
      exact List.forall_mem_cons.mpr ⟨he, ih hes heach hmore⟩

end Placing

namespace Legible

variable {e' document root : Element}

/-- An element that has got other children can hold them. -/
theorem withChildren_of_map {f : List Element → Option (List Element)} (h : Legible e) (hnil : f [] = none)
    (hf : ∀ cs, f e.children = some cs → ∀ c ∈ cs, Legible c) (he' : (f e.children).map e.withChildren = some e') :
    Legible e' := by
  obtain ⟨cs, hcs, rfl⟩ := Option.map_eq_some_iff.mp he'
  refine h.withChildren (h.holdsElements fun hchildren => ?_) (hf cs hcs)
  rw [hchildren, hnil] at hcs
  cases hcs

theorem placeAfterTitle? (hnew : Legible new) (h : Legible e) (he' : Element.placeAfterTitle? new e = some e') :
    Legible e' := by
  induction e using induct generalizing e' with
  | step kind attributes text children tail ih =>
    rw [placeAfterTitle?_eq_map] at he'
    refine h.withChildren_of_map rfl (fun cs hcs => ?_) he'
    exact forall_placeAfterTitleL? hnew h.children (fun c hc c' => ih c hc (h.children c hc)) hcs

theorem placeInHead (hnew : Legible new) (h : Legible e) (hhead : e.isHead = true) :
    Legible (Element.placeInHead new e) := by
  rw [Element.placeInHead]
  cases hplace : Element.placeAfterTitle? new e with
  | some e' => exact hnew.placeAfterTitle? h hplace
  | none =>
    refine h.withChildren (holdsElements_of_hasTag hhead (by decide) (by decide)) fun c hc => ?_
    rcases List.mem_append.mp hc with hc | hc
    · exact h.children c hc
    · obtain rfl := List.mem_singleton.mp hc
      exact hnew

theorem placeInFirstHead? (hnew : Legible new) (h : Legible e) (he' : Element.placeInFirstHead? new e = some e') :
    Legible e' := by
  induction e using induct generalizing e' with
  | step kind attributes text children tail ih =>
    cases hhead : isHead (.mk kind attributes text children tail) with
    | true =>
      rw [Element.placeInFirstHead?, if_pos hhead] at he'
      obtain rfl := Option.some.inj he'
      exact hnew.placeInHead h hhead
    | false =>
      rw [placeInFirstHead?_of_not_isHead hhead] at he'
      refine h.withChildren_of_map rfl (fun cs hcs => ?_) he'
      exact forall_placeInFirstHeadL? h.children (fun c hc c' => ih c hc (h.children c hc)) hcs

/-! ### injections -/

theorem emptyHead : Legible emptyHead :=
  .parent (by decide) (by decide) ⟨⟨'h', "ead".toList, rfl, by decide⟩, by simp [endsTagName, isTagBlank]⟩
    (List.forall_mem_nil _) isText_empty (List.forall_mem_nil _) isText_empty

theorem ensureHead (h : Legible root) (hroot : HoldsElements root) : Legible (Element.ensureHead root) := by
  unfold Element.ensureHead
  split
  · exact h
  · exact h.withChildren hroot (List.forall_mem_cons.mpr ⟨emptyHead, h.children⟩)

/-- A script of linked data is legible if no tag begins in its content. -/
theorem dataScript (hcontent : '<' ∉ content.toList) : Legible (Element.dataScript content) :=
  .raw (by decide) (by decide) isTagName_script (isAttribute_dataScript content)
    (fun rest => splitScript?_of_no_tag rest hcontent) isText_empty

/-- An injection into a document whose root can hold a head gives a legible document. -/
theorem injected? (h : Legible root) (hroot : HoldsElements root) (hcontent : '<' ∉ content.toList)
    (hdocument : root.injected? content = some document) : Legible document := by
  have hrest : Legible (Element.dropScripts (Element.ensureHead root)) := (h.ensureHead hroot).dropScripts
  rw [Element.injected?] at hdocument
  split at hdocument
  · cases hdocument
  · split at hdocument
    · obtain rfl := Option.some.inj hdocument
      exact hrest
    · obtain rfl := Option.some.inj hdocument
      cases hplace : Element.placeInFirstHead? (Element.dataScript content)
          (Element.dropScripts (Element.ensureHead root)) with
      | none => exact hrest
      | some document => exact (dataScript hcontent).placeInFirstHead? hrest hplace

end Legible

end Legible

/-! ### the kind of legible documents -/

/-- Legible documents whose root holds elements, such as `html`, without text behind them. -/
structure IsLegible (root : Element) : Prop where
  legible : Legible root
  holdsElements : HoldsElements root
  tail : root.tail = ""

/-- The texts that are written for such documents. -/
def IsLegibleText (text : String) : Prop := ∃ root, IsLegible root ∧ write root = text

/-- An injection does not change what the root is, nor what comes behind it. -/
theorem IsLegible.injected? {root document : Element} {content : String} (h : IsLegible root)
    (hcontent : '<' ∉ content.toList) (hdocument : root.injected? content = some document) : IsLegible document := by
  obtain ⟨document', _, _, _, hinjected, _, _, _, _, _, hskeleton, htail⟩ :=
    injected?_spec h.holdsElements.not_isDataScript h.legible.headsOutside content
  obtain rfl : document' = document := Option.some.inj (hinjected.symm.trans hdocument)
  have hkind : document'.kind = root.kind := by
    have hsame := (Node.element.inj hskeleton).1
    rw [hsame, ensureHead]
    split
    · rfl
    · cases root
      rfl
  obtain ⟨name, hname, hcan⟩ := h.holdsElements
  exact ⟨h.legible.injected? h.holdsElements hcontent hdocument, ⟨name, hkind.trans hname, hcan⟩,
    by rw [htail, tail_ensureHead, h.tail]⟩

/-- Legible documents as a kind. -/
def legibleKind : DocumentKind where
  Holds := IsLegible
  root := fun h => h.holdsElements.not_isDataScript
  headsOutside := fun h => h.legible.headsOutside
  injected := fun h => h.injected?

end LinkedData.Markup

namespace LinkedData

open Markup

theorem MarkupLibrary.standard_read_eq_ok {text : String} {root : Element} :
    MarkupLibrary.standard.read text = .ok root ↔ read? text = some root := by
  cases hread : read? text with
  | none =>
    have hfails : MarkupLibrary.standard.read text = .error .noDocument := by
      simp only [MarkupLibrary.standard, hread]
    rw [hfails]
    exact iff_of_false (by rintro ⟨⟩) (by rintro ⟨⟩)
  | some found =>
    have hfound : MarkupLibrary.standard.read text = .ok found := by simp only [MarkupLibrary.standard, hread]
    rw [hfound]
    exact ⟨fun h => congrArg some (Except.ok.inj h), fun h => congrArg Except.ok (Option.some.inj h)⟩

/-- **The library reads what it writes**, and writes what it reads, as far as documents are legible. -/
theorem MarkupLibrary.standard_inverseOn : MarkupLibrary.standard.InverseOn IsLegibleText legibleKind where
  read_text := by
    rintro _ ⟨root, hroot, rfl⟩
    exact ⟨root, standard_read_eq_ok.mpr (read?_write hroot.legible hroot.tail), hroot, rfl⟩
  read_write := fun {root} hroot =>
    ⟨⟨root, hroot, rfl⟩, standard_read_eq_ok.mpr (read?_write hroot.legible hroot.tail)⟩

end LinkedData
