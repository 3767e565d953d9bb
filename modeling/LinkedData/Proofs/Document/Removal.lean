import LinkedData.Proofs.Document.Skeleton

/-!
# Dropping scripts one after the other

* `Element.dropFirst?`: one step, which takes the first script of linked data out of a document;
* `Element.skeleton_of_dropFirst?`: a step leaves the skeleton as it is;
* `Element.dropEach`: steps as long as there is a script, and `Element.dropEach_eq`, that they lead to
  `Element.dropScripts`;
* `Element.injected?_eq_dropEach`: what an injection makes of a document when it takes these steps.
-/

namespace LinkedData.Element

/-! ### one step -/

mutual
/-- The element without the first script of linked data below it, if there is one. -/
def dropFirst? : Element → Option Element
  | mk kind attributes text children tail =>
    (dropFirstL? children).map fun (before, cs) => mk kind attributes (text ++ before) cs tail
/-- Siblings without the first script of linked data among and below them, and the text that comes before the first one
left. -/
def dropFirstL? : List Element → Option (String × List Element)
  | [] => none
  | e :: es =>
    if isDataScript e then some (e.tail, es)
    else match dropFirst? e with
      | some e' => some ("", e' :: es)
      | none => (dropFirstL? es).map fun (before, es') => ("", e.appendTail before :: es')
end

mutual
/-- The number of elements of a tree. -/
def size : Element → Nat
  | mk _ _ _ children _ => sizeL children + 1
def sizeL : List Element → Nat
  | [] => 0
  | e :: es => size e + sizeL es
end

section Step

variable {e e' : Element} {es es' : List Element} {before : String}

theorem size_pos (e : Element) : 0 < e.size := by
  cases e
  exact Nat.succ_pos _

@[simp] theorem size_appendTail (e : Element) (t : String) : (e.appendTail t).size = e.size := by cases e; rfl

theorem dropFirst?_eq_some : dropFirst? e = some e' ↔ ∃ before cs, dropFirstL? e.children = some (before, cs) ∧
    mk e.kind e.attributes (e.text ++ before) cs e.tail = e' := by
  cases e
  rw [dropFirst?, Option.map_eq_some_iff, Prod.exists]
  rfl

/-- The three ways to take a script out of siblings: the first of them is one, or one is below the first, or one comes
after it. -/
theorem dropFirstL?_cons (h : dropFirstL? (e :: es) = some (before, es')) :
    (e.isDataScript = true ∧ before = e.tail ∧ es' = es) ∨
    (e.isDataScript = false ∧ before = "" ∧ ∃ e', dropFirst? e = some e' ∧ es' = e' :: es) ∨
    (e.isDataScript = false ∧ before = "" ∧
      ∃ t fs, dropFirstL? es = some (t, fs) ∧ es' = e.appendTail t :: fs) := by
  rw [dropFirstL?] at h
  by_cases hscript : e.isDataScript = true
  · rw [if_pos hscript] at h
    cases h
    exact Or.inl ⟨hscript, rfl, rfl⟩
  rw [if_neg hscript] at h
  have hscript := Bool.eq_false_iff.mpr hscript
  cases hfirst : dropFirst? e with
  | some e' =>
    rw [hfirst] at h
    cases h
    exact Or.inr (Or.inl ⟨hscript, rfl, e', rfl, rfl⟩)
  | none =>
    rw [hfirst] at h
    obtain ⟨⟨t, fs⟩, hmore, hes⟩ := Option.map_eq_some_iff.mp h
    cases hes
    exact Or.inr (Or.inr ⟨hscript, rfl, t, fs, hmore, rfl⟩)

theorem isDataScript_of_dropFirst? (h : dropFirst? e = some e') : e'.isDataScript = e.isDataScript := by
  obtain ⟨before, cs, _, rfl⟩ := dropFirst?_eq_some.mp h
  rfl

theorem contentL_of_dropFirstL? (heach : ∀ e ∈ es, ∀ e', dropFirst? e = some e' → e'.content = e.content)
    (h : dropFirstL? es = some (before, es')) : textNodes before ++ contentL es' = contentL es := by
  induction es generalizing before es' with
  | nil => cases h
  | cons e es ih =>
    obtain ⟨he, hmore⟩ := List.forall_mem_cons.mp heach
    rcases dropFirstL?_cons h with ⟨hscript, rfl, rfl⟩ | ⟨hscript, rfl, e', hfirst, rfl⟩ |
      ⟨hscript, rfl, t, fs, hdrop, rfl⟩
    · simp [contentL, hscript]
    · obtain ⟨t, cs, _, rfl⟩ := dropFirst?_eq_some.mp hfirst
      have hsame := he _ hfirst
      rw [contentL_cons hscript, contentL_cons (isDataScript_of_dropFirst? hfirst ▸ hscript), hsame]
      rfl
    · rw [contentL_cons hscript, contentL_cons (by simpa using hscript), ← ih hmore hdrop]
      simp [textNodes_empty, textNodes_append]

theorem content_of_dropFirst? (h : dropFirst? e = some e') : e'.content = e.content := by
  induction e using induct generalizing e' with
  | step kind attributes text children tail ih =>
    obtain ⟨before, cs, hcs, rfl⟩ := dropFirst?_eq_some.mp h
    show textNodes (text ++ before) ++ contentL cs = textNodes text ++ contentL children
    rw [textNodes_append, List.append_assoc, contentL_of_dropFirstL? (fun c hc e' => ih c hc) hcs]

/-- A step leaves the skeleton and the text after the document as they are. -/
theorem skeleton_of_dropFirst? (h : dropFirst? e = some e') : e'.skeleton = e.skeleton ∧ e'.tail = e.tail := by
  have hcontent := content_of_dropFirst? h
  obtain ⟨before, cs, _, rfl⟩ := dropFirst?_eq_some.mp h
  exact ⟨congrArg (Node.element e.kind e.attributes) hcontent, rfl⟩

theorem sizeL_of_dropFirstL? (heach : ∀ e ∈ es, ∀ e', dropFirst? e = some e' → e'.size < e.size)
    (h : dropFirstL? es = some (before, es')) : sizeL es' < sizeL es := by
  induction es generalizing before es' with
  | nil => cases h
  | cons e es ih =>
    obtain ⟨he, hmore⟩ := List.forall_mem_cons.mp heach
    rcases dropFirstL?_cons h with ⟨_, _, rfl⟩ | ⟨_, _, e', hfirst, rfl⟩ | ⟨_, _, t, fs, hdrop, rfl⟩
    · have := size_pos e
      rw [sizeL]
      omega
    · have := he e' hfirst
      rw [sizeL, sizeL]
      omega
    · have := ih hmore hdrop
      rw [sizeL, sizeL, size_appendTail]
      omega

theorem size_of_dropFirst? (h : dropFirst? e = some e') : e'.size < e.size := by
  induction e using induct generalizing e' with
  | step kind attributes text children tail ih =>
    obtain ⟨before, cs, hcs, rfl⟩ := dropFirst?_eq_some.mp h
    exact Nat.succ_lt_succ (sizeL_of_dropFirstL? (fun c hc e' => ih c hc) hcs)

theorem anyL_of_dropFirstL?_eq_none (heach : ∀ e ∈ es, dropFirst? e = none → e.ScriptFree)
    (h : dropFirstL? es = none) : anyL isDataScript es = false := by
  induction es with
  | nil => rfl
  | cons e es ih =>
    obtain ⟨he, hmore⟩ := List.forall_mem_cons.mp heach
    rw [dropFirstL?] at h
    by_cases hscript : e.isDataScript = true
    · rw [if_pos hscript] at h
      cases h
    rw [if_neg hscript] at h
    cases hfirst : dropFirst? e with
    | some e' =>
      rw [hfirst] at h
      cases h
    | none =>
      rw [hfirst] at h
      exact anyL_cons_eq_false.mpr ⟨Bool.eq_false_iff.mpr hscript, he hfirst, ih hmore (Option.map_eq_none_iff.mp h)⟩

theorem scriptFree_of_dropFirst? (h : dropFirst? e = none) : e.ScriptFree := by
  induction e using induct with
  | step kind attributes text children tail ih =>
    exact anyL_of_dropFirstL?_eq_none ih (Option.map_eq_none_iff.mp h)

end Step

/-! ### all steps -/

/-- The element without the scripts of linked data below it, which are dropped one after the other. -/
def dropEach (e : Element) : Element :=
  match _h : dropFirst? e with
  | none => e
  | some e' => dropEach e'
termination_by e.size
decreasing_by exact size_of_dropFirst? _h

theorem dropEach_of_none {e : Element} (h : dropFirst? e = none) : dropEach e = e := by
  rw [dropEach.eq_def]
  split
  · rfl
  · next e' h' =>
    rw [h] at h'
    cases h'

theorem dropEach_of_some {e e' : Element} (h : dropFirst? e = some e') : dropEach e = dropEach e' := by
  rw [dropEach.eq_def]
  split
  · next h' =>
    rw [h] at h'
    cases h'
  · next f h' =>
    rw [h] at h'
    rw [Option.some.inj h']

/-- What every step keeps is kept by all of them. -/
theorem dropEach_keeps (e : Element) :
    (dropEach e).skeleton = e.skeleton ∧ (dropEach e).tail = e.tail ∧ (dropEach e).ScriptFree := by
  induction e using dropEach.induct with
  | case1 e h =>
    rw [dropEach_of_none h]
    exact ⟨rfl, rfl, scriptFree_of_dropFirst? h⟩
  | case2 e e' h ih =>
    obtain ⟨hskeleton, htail, hfree⟩ := ih
    obtain ⟨hstep, hstepTail⟩ := skeleton_of_dropFirst? h
    rw [dropEach_of_some h]
    exact ⟨hskeleton.trans hstep, htail.trans hstepTail, hfree⟩

/-- **All at once or one after the other**: the same document is left. -/
theorem dropEach_eq (e : Element) : dropEach e = dropScripts e := by
  obtain ⟨hskeleton, htail, hfree⟩ := dropEach_keeps e
  exact eq_of_skeleton_eq hfree (scriptFree_dropScripts e) (hskeleton.trans (skeleton_dropScripts e).symm)
    (htail.trans (tail_dropScripts e).symm)

/-! ### injections in steps -/

/-- **An injection may drop the scripts one after the other.** If the root is no script, a document with a head becomes
what the steps leave of it, with the new script in its first head, unless a step has dropped this head. -/
theorem injected?_eq_dropEach (content : String) {root : Element} (hroot : isDataScript (ensureHead root) = false) :
    injected? content root = some
      (if firstHeadIsInScript? (ensureHead root) = some true then dropEach (ensureHead root)
      else (placeInFirstHead? (dataScript content) (dropEach (ensureHead root))).getD (dropEach (ensureHead root))) := by
  rw [injected?, hroot, if_neg Bool.false_ne_true, dropEach_eq]
  split
  · rfl
  · rfl

end LinkedData.Element
