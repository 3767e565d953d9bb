import LinkedData.Proofs.Document.Placement

/-!
# What an injection does to a document

* `Element.HeadsOutside`: no head is inside of a script of linked data, so that dropping scripts loses no head;
* `Element.IsFirst.dropScripts`: the first head stays the first one when scripts are dropped;
* `Element.injected?_spec`: the script ends up as the only one, at its place in the first head, and the document keeps
  its skeleton but for a new head;
* `Element.injected?_of_root`: it takes no more than a root that is no script of linked data;
* `Element.injected?_injected?`: an injection leaves no trace in the next one.
-/

namespace LinkedData.Element

/-! ### heads outside of scripts -/

/-- No head is inside of a script of linked data. -/
def HeadsOutside (root : Element) : Prop := any (fun e => isDataScript e && anyL isHead e.children) root = false

instance (root : Element) : Decidable root.HeadsOutside := inferInstanceAs (Decidable (_ = false))

section Heads

variable {e c x : Element} {a : Address} {es before : List Element}

theorem headsOutside_iff : e.HeadsOutside ↔
    (e.isDataScript = true → anyL isHead e.children = false) ∧ ∀ c ∈ e.children, c.HeadsOutside := by
  rw [HeadsOutside, any_eq_false_iff, anyL_eq_false_iff, Bool.and_eq_false_imp]
  rfl

theorem isHead_of_isDataScript (h : isDataScript e = true) : isHead e = false := by
  have hkind : e.kind = .tag "script" := by
    rw [isDataScript, Bool.and_eq_true] at h
    simpa [hasTag] using h.1
  simp [isHead, hasTag, hkind]

/-- What holds a head is no script. -/
theorem HeadsOutside.not_script (h : e.HeadsOutside) (hhead : any isHead e = true) : isDataScript e = false := by
  rw [Bool.eq_false_iff]
  intro hscript
  have hbelow := (headsOutside_iff.mp h).1 hscript
  rw [any_eq, isHead_of_isDataScript hscript, hbelow] at hhead
  cases hhead

/-- The first head is inside of no script. -/
theorem firstHeadIsInScriptL?_eq
    (h : ∀ e ∈ es, firstHeadIsInScript? e = if any isHead e then some false else none) :
    firstHeadIsInScriptL? es = if anyL isHead es then some false else none := by
  induction es with
  | nil => rfl
  | cons e es ih =>
    obtain ⟨he, hes⟩ := List.forall_mem_cons.mp h
    rw [firstHeadIsInScriptL?, he, ih hes, anyL]
    cases any isHead e <;> rfl

theorem firstHeadIsInScript?_eq_ite (e : Element) : firstHeadIsInScript? e =
    if isHead e then some false else (firstHeadIsInScriptL? e.children).map (isDataScript e || ·) := by
  cases e
  rfl

theorem firstHeadIsInScript?_of_children (h : e.HeadsOutside)
    (hchildren : firstHeadIsInScriptL? e.children = if anyL isHead e.children then some false else none) :
    firstHeadIsInScript? e = if any isHead e then some false else none := by
  have hscript := h.not_script
  rw [any_eq] at hscript
  rw [firstHeadIsInScript?_eq_ite, hchildren, any_eq]
  cases hhead : isHead e with
  | true => rfl
  | false =>
    cases hbelow : anyL isHead e.children with
    | false => rfl
    | true =>
      rw [hhead, hbelow] at hscript
      simp [hscript rfl]

theorem firstHeadIsInScript?_eq (h : e.HeadsOutside) :
    firstHeadIsInScript? e = if any isHead e then some false else none := by
  induction e using induct with
  | step kind attributes text children tail ih =>
    have hbelow := (headsOutside_iff.mp h).2
    exact firstHeadIsInScript?_of_children h (firstHeadIsInScriptL?_eq fun c hc => ih c hc (hbelow c hc))

/-! ### heads when scripts are dropped -/

@[simp] theorem isHead_appendTail (e : Element) (t : String) : (e.appendTail t).isHead = e.isHead := by simp [isHead]

@[simp] theorem isHead_dropScripts (e : Element) : (dropScripts e).isHead = e.isHead := by simp [isHead]

theorem anyL_isHead_dropScriptsL (heach : ∀ e ∈ es, any isHead e = false → any isHead (dropScripts e) = false)
    (h : anyL isHead es = false) : anyL isHead (dropScriptsL es).2 = false := by
  induction es with
  | nil => rfl
  | cons e es ih =>
    obtain ⟨he, hmore⟩ := List.forall_mem_cons.mp heach
    rw [anyL, Bool.or_eq_false_iff] at h
    rw [dropScriptsL]
    split
    · exact ih hmore h.2
    · have hdrop := he h.1
      rw [any_eq] at hdrop
      rw [anyL, any_eq, isHead_appendTail, children_appendTail, hdrop, ih hmore h.2]
      rfl

theorem any_isHead_dropScripts (h : any isHead e = false) : any isHead (dropScripts e) = false := by
  induction e using induct with
  | step kind attributes text children tail ih =>
    obtain ⟨he, hbelow⟩ := any_eq_false_iff.mp h
    rw [any_eq, isHead_dropScripts, he, children_dropScripts]
    exact anyL_isHead_dropScriptsL ih hbelow

/-- What comes before an element that stays still comes before it. -/
theorem dropScriptsL_split (hbefore : anyL isHead before = false) (hc : isDataScript c = false) (after : List Element) :
    ∃ rest t more, (dropScriptsL (before ++ c :: after)).2 = rest ++ (dropScripts c).appendTail t :: more ∧
      anyL isHead rest = false := by
  induction before with
  | nil => exact ⟨[], _, _, by rw [List.nil_append, dropScriptsL, if_neg (by simp [hc])]; rfl, rfl⟩
  | cons b before ih =>
    rw [anyL, Bool.or_eq_false_iff] at hbefore
    obtain ⟨rest, t, more, hsplit, hrest⟩ := ih hbefore.2
    rw [List.cons_append, dropScriptsL, hsplit]
    split
    · exact ⟨rest, t, more, rfl, hrest⟩
    · have hb := any_isHead_dropScripts hbefore.1
      rw [any_eq] at hb
      refine ⟨_ :: rest, t, more, rfl, ?_⟩
      rw [anyL, any_eq, isHead_appendTail, children_appendTail, hb, hrest]
      rfl

theorem IsFirst.appendTail (h : IsFirst isHead e a x) (t : String) :
    ∃ s, IsFirst isHead (e.appendTail t) a (x.appendTail s) := by
  cases a with
  | nil =>
    obtain rfl := Option.some.inj h.at_eq
    exact ⟨t, IsFirst.root (by simpa using h.holds)⟩
  | cons i a =>
    obtain ⟨he, before, c, after, hchildren, rfl, hbefore, hc⟩ := h.of_cons
    refine ⟨"", IsFirst.child (by simpa using he) (by simpa using hchildren) hbefore ?_⟩
    simpa using hc

/-- The first head stays the first one, without its scripts. -/
theorem IsFirst.dropScripts (hheads : e.HeadsOutside) (h : IsFirst isHead e a x) :
    ∃ b t, IsFirst isHead (dropScripts e) b ((Element.dropScripts x).appendTail t) := by
  induction a generalizing e with
  | nil =>
    obtain rfl := Option.some.inj h.at_eq
    exact ⟨[], "", by simpa using IsFirst.root (e := Element.dropScripts e) (by simpa using h.holds)⟩
  | cons i a ih =>
    -- The child on the way down to the head is no script, so it stays, if at another number.
    obtain ⟨he, before, c, after, hchildren, rfl, hbefore, hc⟩ := h.of_cons
    have hcHeads : c.HeadsOutside := (headsOutside_iff.mp hheads).2 c (by simp [hchildren])
    have hscript := hcHeads.not_script (any_iff.mpr ⟨a, x, hc.at_eq, hc.holds⟩)
    obtain ⟨b, t, hfirst⟩ := ih hcHeads hc
    obtain ⟨rest, s, more, hsplit, hrest⟩ := dropScriptsL_split hbefore hscript after
    obtain ⟨s', hfirst⟩ := hfirst.appendTail s
    rw [appendTail_appendTail] at hfirst
    have hkept : (Element.dropScripts e).children = rest ++ (Element.dropScripts c).appendTail s :: more := by
      rw [children_dropScripts, hchildren, hsplit]
    exact ⟨rest.length :: b, t ++ s', IsFirst.child (by simpa using he) hkept hrest hfirst⟩

end Heads

/-! ### the document with a script -/

section Injected

variable {root : Element}

/-- The head that a script goes to: the first one of the document or, if there is none, a new one as the first child of
the root. -/
def IsTargetHead (root : Element) (a : Address) (head : Element) : Prop :=
  if any isHead root then ∃ b old, IsFirst isHead root b old ∧ head.skeleton = old.skeleton
  else a = [0] ∧ head.skeleton = emptyHead.skeleton

theorem isDataScript_ensureHead (root : Element) : (ensureHead root).isDataScript = root.isDataScript := by
  unfold ensureHead
  split <;> simp

theorem any_isHead_ensureHead (root : Element) : any isHead (ensureHead root) = true := by
  unfold ensureHead
  split
  · assumption
  · rw [any_eq, children_withChildren, anyL]
    exact Bool.or_eq_true_iff.mpr (Or.inr rfl)

theorem headsOutside_ensureHead (hroot : root.isDataScript = false) (hheads : root.HeadsOutside) :
    (ensureHead root).HeadsOutside := by
  unfold ensureHead
  split
  · exact hheads
  · refine headsOutside_iff.mpr ⟨by simp [hroot], fun c hc => ?_⟩
    rw [children_withChildren, List.mem_cons] at hc
    rcases hc with rfl | hc
    · rfl
    · exact (headsOutside_iff.mp hheads).2 c hc

theorem tail_ensureHead (root : Element) : (ensureHead root).tail = root.tail := by
  unfold ensureHead
  split <;> simp

/-- A new head stands behind the text of the root. -/
theorem skeleton_ensureHead (root : Element) : (ensureHead root).skeleton =
    if !any isHead root then
      .element root.kind root.attributes (textNodes root.text ++ .element (.tag "head") [] [] :: contentL root.children)
    else root.skeleton := by
  unfold ensureHead
  cases any isHead root with
  | true => rfl
  | false =>
    simp only [Bool.false_eq_true, if_false, skeleton, content_eq, kind_withChildren, attributes_withChildren,
      text_withChildren, children_withChildren, Bool.not_false, if_true]
    rfl

/-- When the scripts are dropped, the head that a script goes to is the first one. -/
theorem exists_targetHead (hheads : root.HeadsOutside) :
    ∃ a head, IsFirst isHead (dropScripts (ensureHead root)) a head ∧ IsTargetHead root a head := by
  by_cases hany : any isHead root = true
  · obtain ⟨b, old, hold⟩ := exists_isFirst hany
    obtain ⟨a, t, hfirst⟩ := hold.dropScripts hheads
    refine ⟨a, _, by rwa [ensureHead, if_pos hany], ?_⟩
    rw [IsTargetHead, if_pos hany]
    exact ⟨b, old, hold, by simp [skeleton, content_dropScripts]⟩
  · have hrest : dropScripts (ensureHead root) = dropScripts (root.withChildren (emptyHead :: root.children)) := by
      rw [ensureHead, if_neg hany]
    have hroothead : isHead (dropScripts (ensureHead root)) = false := by
      rw [hrest]
      simpa using (any_eq_false_iff.mp (Bool.eq_false_iff.mpr hany)).1
    have hchildren : (dropScripts (ensureHead root)).children =
        [] ++ emptyHead.appendTail (dropScriptsL root.children).1 :: (dropScriptsL root.children).2 := by
      rw [hrest, children_dropScripts, children_withChildren]
      rfl
    refine ⟨[0], _, IsFirst.child hroothead hchildren rfl (IsFirst.root rfl), ?_⟩
    rw [IsTargetHead, if_neg hany]
    exact ⟨rfl, by simp [skeleton]⟩

theorem injected?_eq (hroot : root.isDataScript = false) (hheads : root.HeadsOutside) (text : String) :
    injected? text root = some ((placeInFirstHead? (dataScript text) (dropScripts (ensureHead root))).getD
      (dropScripts (ensureHead root))) := by
  have hinside := firstHeadIsInScript?_eq (headsOutside_ensureHead hroot hheads)
  rw [any_isHead_ensureHead, if_pos rfl] at hinside
  simp only [injected?, isDataScript_ensureHead, hroot, hinside, Bool.false_eq_true, if_false, Option.some.injEq]

/-- **What an injection does to a document**: the script becomes the only one and stands at its place in the first
head; but for a new head and the dropped scripts, nothing changes. -/
theorem injected?_spec (hroot : root.isDataScript = false) (hheads : root.HeadsOutside) (text : String) :
    ∃ document a head place, injected? text root = some document ∧ document.isDataScript = false ∧
      IsFirst isHead document a head ∧ IsTargetHead root a head ∧ IsScriptPlace head place ∧
      IsOnly isDataScript document (a ++ place) (dataScript text) ∧
      document.skeleton = (ensureHead root).skeleton ∧ document.tail = (ensureHead root).tail := by
  obtain ⟨a, head, hfirst, htarget⟩ := exists_targetHead hheads
  have hscript : isDataScript (dropScripts (ensureHead root)) = false := by
    rw [isDataScript_dropScripts, isDataScript_ensureHead, hroot]
  have hfree : any isDataScript (dropScripts (ensureHead root)) = false :=
    any_eq_false_iff.mpr ⟨hscript, scriptFree_dropScripts _⟩
  obtain ⟨cs, ds, place, hplace, hcontent, hheadContent, hfirst', hscriptPlace, honly⟩ :=
    placeInFirstHead?_spec text hfree hfirst
  refine ⟨_, a, head.withChildren ds, place, ?_, ?_, hfirst', ?_, hscriptPlace, honly, ?_, ?_⟩
  · rw [injected?_eq hroot hheads, hplace, Option.getD_some]
  · rw [isDataScript_withChildren, hscript]
  · rw [IsTargetHead, skeleton_withChildren hheadContent]
    exact htarget
  · rw [skeleton_withChildren hcontent, skeleton_dropScripts]
  · rw [tail_withChildren, tail_dropScripts]

/-! ### the root -/

/-- A script can be put into every document whose root is none itself, and the root never becomes one. -/
theorem injected?_of_root (hroot : root.isDataScript = false) (text : String) :
    ∃ document, injected? text root = some document ∧ document.isDataScript = false := by
  have hscript : isDataScript (dropScripts (ensureHead root)) = false := by
    rw [isDataScript_dropScripts, isDataScript_ensureHead, hroot]
  rw [injected?, isDataScript_ensureHead, hroot]
  by_cases hinside : firstHeadIsInScript? (ensureHead root) = some true
  · exact ⟨_, by rw [if_neg Bool.false_ne_true, if_pos hinside], hscript⟩
  · refine ⟨_, by rw [if_neg Bool.false_ne_true, if_neg hinside], ?_⟩
    cases hplace : placeInFirstHead? (dataScript text) (dropScripts (ensureHead root)) with
    | none => exact hscript
    | some document =>
      obtain ⟨cs, rfl⟩ := placeInFirstHead?_eq_withChildren hplace
      rw [Option.getD_some, isDataScript_withChildren, hscript]

/-! ### one injection after another -/

/-- An injection leaves no trace in the next one: both scripts go to the same head of the same document. -/
theorem injected?_injected? {document : Element} {text : String} (hroot : root.isDataScript = false)
    (hheads : root.HeadsOutside) (h : injected? text root = some document) :
    document.isDataScript = false ∧ document.HeadsOutside ∧
      ∀ other, injected? other document = injected? other root := by
  obtain ⟨document', a, head, place, hinjected, hscript, hfirst, _, _, honly, hskeleton, htail⟩ :=
    injected?_spec hroot hheads text
  obtain rfl : document' = document := Option.some.inj (hinjected.symm.trans h)
  have hany : any isHead document' = true := any_iff.mpr ⟨a, head, hfirst.at_eq, hfirst.holds⟩
  -- the only script is the new one, which has no children
  have hheads' : document'.HeadsOutside := by
    rw [HeadsOutside, Bool.eq_false_iff]
    intro hinside
    obtain ⟨b, x, hx, hboth⟩ := any_iff.mp hinside
    rw [Bool.and_eq_true] at hboth
    obtain rfl := honly.eq_of_holds b x hx hboth.1
    obtain rfl := Option.some.inj (hx.symm.trans honly.at_eq)
    exact absurd hboth.2 (by simp [dataScript, children, anyL])
  have hsame : dropScripts document' = dropScripts (ensureHead root) := by
    refine eq_of_skeleton_eq (scriptFree_dropScripts _) (scriptFree_dropScripts _) ?_ ?_
    · rw [skeleton_dropScripts, skeleton_dropScripts, hskeleton]
    · rw [tail_dropScripts, tail_dropScripts, htail]
  refine ⟨hscript, hheads', fun other => ?_⟩
  rw [injected?_eq hscript hheads', injected?_eq hroot hheads, ensureHead, if_pos hany, hsame]

end Injected

end LinkedData.Element
