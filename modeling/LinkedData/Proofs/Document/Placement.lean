import LinkedData.Proofs.Document.Skeleton

/-!
# Where a script is placed

* `Element.IsScriptPlace`: the place for a script in a head, which is behind the first title or else at the end;
* `Element.placeInHead_spec`: a script is placed there, and nothing else changes;
* `Element.placeInFirstHead?_spec`: the same in the first head of a document.
-/

namespace LinkedData.Element

/-! ### fields -/

section WithChildren

variable (e : Element) (cs : List Element)

@[simp] theorem kind_withChildren : (e.withChildren cs).kind = e.kind := by cases e; rfl
@[simp] theorem attributes_withChildren : (e.withChildren cs).attributes = e.attributes := by cases e; rfl
@[simp] theorem text_withChildren : (e.withChildren cs).text = e.text := by cases e; rfl
@[simp] theorem children_withChildren : (e.withChildren cs).children = cs := by cases e; rfl
@[simp] theorem tail_withChildren : (e.withChildren cs).tail = e.tail := by cases e; rfl

@[simp] theorem hasTag_withChildren (name : String) : (e.withChildren cs).hasTag name = e.hasTag name := by
  simp [hasTag]

@[simp] theorem isDataScript_withChildren : (e.withChildren cs).isDataScript = e.isDataScript := by
  simp [isDataScript]

@[simp] theorem isHead_withChildren : (e.withChildren cs).isHead = e.isHead := by simp [isHead]

@[simp] theorem isTitle_withChildren : (e.withChildren cs).isTitle = e.isTitle := by simp [isTitle]

end WithChildren

theorem skeleton_withChildren {e : Element} {cs : List Element} (h : contentL cs = contentL e.children) :
    (e.withChildren cs).skeleton = e.skeleton := by
  simp [skeleton, content_eq, h]

section DataScript

variable (text : String)

theorem isOnly_dataScript : IsOnly isDataScript (dataScript text) [] (dataScript text) := IsOnly.root rfl rfl

/-- A script adds nothing to a content. -/
theorem contentL_dataScript (es : List Element) : contentL (dataScript text :: es) = contentL es := rfl

end DataScript

theorem any_isDataScript_split {e c : Element} {before after : List Element} (hfree : any isDataScript e = false)
    (hchildren : e.children = before ++ c :: after) :
    e.isDataScript = false ∧ anyL isDataScript before = false ∧ any isDataScript c = false ∧
      anyL isDataScript after = false := by
  obtain ⟨hscript, hbelow⟩ := any_eq_false_iff.mp hfree
  rw [hchildren, anyL_append, anyL, Bool.or_eq_false_iff, Bool.or_eq_false_iff] at hbelow
  exact ⟨hscript, hbelow⟩

/-- Other children in one child leave the content as it is if they leave that of the child as it is. -/
theorem contentL_withChildren {c : Element} {cs : List Element} (h : contentL cs = contentL c.children)
    (before after : List Element) :
    contentL (before ++ c.withChildren cs :: after) = contentL (before ++ c :: after) := by
  rw [contentL_append, contentL_append]
  congr 1
  simp [contentL, content_eq, h]

/-! ### behind the first title -/

section Title

variable {new e title : Element} {before after : List Element}

theorem placeAfterTitleL?_eq_none {es : List Element} (hnone : anyL isTitle es = false)
    (heach : ∀ e ∈ es, anyL isTitle e.children = false → placeAfterTitle? new e = none) :
    placeAfterTitleL? new es = none := by
  induction es with
  | nil => rfl
  | cons e es ih =>
    obtain ⟨he, hmore⟩ := List.forall_mem_cons.mp heach
    rw [anyL, Bool.or_eq_false_iff, any_eq_false_iff] at hnone
    obtain ⟨⟨htitle, hbelow⟩, hes⟩ := hnone
    simp [placeAfterTitleL?, htitle, he hbelow, ih hes hmore]

theorem placeAfterTitle?_eq_map (new e : Element) :
    placeAfterTitle? new e = (placeAfterTitleL? new e.children).map e.withChildren := by
  cases e
  rfl

theorem placeAfterTitle?_eq_none (h : anyL isTitle e.children = false) : placeAfterTitle? new e = none := by
  induction e using induct with
  | step kind attributes text children tail ih =>
    rw [placeAfterTitle?_eq_map, Option.map_eq_none_iff]
    exact placeAfterTitleL?_eq_none h ih

theorem placeAfterTitleL?_skip (hbefore : anyL isTitle before = false) (es : List Element) :
    placeAfterTitleL? new (before ++ es) = (placeAfterTitleL? new es).map (before ++ ·) := by
  induction before with
  | nil => simp
  | cons b before ih =>
    rw [anyL, Bool.or_eq_false_iff, any_eq_false_iff] at hbefore
    obtain ⟨⟨hb, hbelow⟩, hbefore⟩ := hbefore
    simp [placeAfterTitleL?, hb, placeAfterTitle?_eq_none hbelow, ih hbefore, Function.comp_def]

/-- The script is the next sibling of the first title, and nothing else changes. -/
theorem placeAfterTitle?_spec (text : String) {parent : Address} {i : Nat} (hfree : any isDataScript e = false)
    (h : IsFirst isTitle e (parent ++ [i]) title) :
    ∃ cs, placeAfterTitle? (dataScript text) e = some (e.withChildren cs) ∧ contentL cs = contentL e.children ∧
      IsFirst isTitle (e.withChildren cs) (parent ++ [i]) title ∧
      IsOnly isDataScript (e.withChildren cs) (parent ++ [i + 1]) (dataScript text) := by
  -- The induction is on the way down to the parent of the title.
  induction parent generalizing e with
  | nil =>
    obtain ⟨he, before, c, after, hchildren, rfl, hbefore, hc⟩ := h.of_cons
    obtain rfl := Option.some.inj hc.at_eq
    obtain ⟨hescript, hbeforeFree, hcFree, hafterFree⟩ := any_isDataScript_split hfree hchildren
    refine ⟨before ++ c :: dataScript text :: after, ?_, ?_, ?_, ?_⟩
    · rw [placeAfterTitle?_eq_map, hchildren, placeAfterTitleL?_skip hbefore, placeAfterTitleL?, if_pos hc.holds]
      rfl
    · rw [hchildren, contentL_append, contentL_append, ← List.singleton_append, contentL_append, contentL_dataScript,
        ← contentL_append, List.singleton_append]
    · exact IsFirst.child (by simpa using he) (children_withChildren _ _) hbefore (IsFirst.root hc.holds)
    · have hsplit : before ++ c :: dataScript text :: after = (before ++ [c]) ++ dataScript text :: after := by simp
      have honly := IsOnly.child (e := e.withChildren (before ++ c :: dataScript text :: after))
        (by simpa using hescript) ((children_withChildren _ _).trans hsplit)
        (by simp [anyL_append, anyL, hbeforeFree, hcFree]) hafterFree (isOnly_dataScript text)
      simpa using honly
  | cons j parent ih =>
    obtain ⟨he, before, c, after, hchildren, rfl, hbefore, hc⟩ := h.of_cons
    obtain ⟨hescript, hbeforeFree, hcFree, hafterFree⟩ := any_isDataScript_split hfree hchildren
    have hctitle : isTitle c = false := hc.not_before [] c (by cases parent <;> exact List.Lex.nil) rfl
    obtain ⟨ds, hplace, hcontent, hfirst, honly⟩ := ih hcFree hc
    refine ⟨before ++ c.withChildren ds :: after, ?_, ?_, ?_, ?_⟩
    · rw [placeAfterTitle?_eq_map, hchildren, placeAfterTitleL?_skip hbefore, placeAfterTitleL?, hctitle, hplace]
      rfl
    · rw [hchildren]
      exact contentL_withChildren hcontent before after
    · exact IsFirst.child (by simpa using he) (children_withChildren _ _) hbefore hfirst
    · exact IsOnly.child (by simpa using hescript) (children_withChildren _ _) hbeforeFree hafterFree honly

end Title

/-! ### in a head -/

/-- The place of a script in a head: behind the first title as its next sibling, or at the end if there is no title. -/
def IsScriptPlace (head : Element) (place : Address) : Prop :=
  (∃ parent i title, IsFirst isTitle head (parent ++ [i]) title ∧ place = parent ++ [i + 1]) ∨
  any isTitle head = false ∧ ∃ n, head.children.length = n + 1 ∧ place = [n]

section Head

variable {head e : Element} {a : Address} {before : List Element}

theorem isTitle_of_isHead (h : isHead head = true) : isTitle head = false := by
  have hkind : head.kind = .tag "head" := by simpa [isHead, hasTag] using h
  simp [isTitle, hasTag, hkind]

theorem placeInHead_spec (text : String) (hhead : isHead head = true) (hfree : any isDataScript head = false) :
    ∃ cs place, placeInHead (dataScript text) head = head.withChildren cs ∧ contentL cs = contentL head.children ∧
      IsScriptPlace (head.withChildren cs) place ∧
      IsOnly isDataScript (head.withChildren cs) place (dataScript text) := by
  have hnotTitle := isTitle_of_isHead hhead
  by_cases htitle : any isTitle head = true
  · obtain ⟨a, title, hfirst⟩ := exists_isFirst htitle
    rcases List.eq_nil_or_concat a with rfl | ⟨parent, i, rfl⟩
    · obtain rfl := Option.some.inj hfirst.at_eq
      rw [hfirst.holds] at hnotTitle
      cases hnotTitle
    rw [List.concat_eq_append] at hfirst
    obtain ⟨cs, hplace, hcontent, hfirst', honly⟩ := placeAfterTitle?_spec text hfree hfirst
    refine ⟨cs, parent ++ [i + 1], ?_, hcontent, Or.inl ⟨parent, i, title, hfirst', rfl⟩, honly⟩
    rw [placeInHead, hplace, Option.getD_some]
  · have hnone := Bool.eq_false_iff.mpr htitle
    have hbelow := (any_eq_false_iff.mp hnone).2
    obtain ⟨hscript, hbelowFree⟩ := any_eq_false_iff.mp hfree
    refine ⟨head.children ++ [dataScript text], [head.children.length], ?_, ?_, Or.inr ⟨?_, _, ?_, rfl⟩, ?_⟩
    · rw [placeInHead, placeAfterTitle?_eq_none hbelow, Option.getD_none]
    · rw [contentL_append, contentL_dataScript, contentL, List.append_nil]
    · rw [any_eq_false_iff, isTitle_withChildren, children_withChildren, anyL_append, hbelow]
      exact ⟨hnotTitle, rfl⟩
    · simp
    · exact IsOnly.child (by simpa using hscript) (children_withChildren _ _) hbelowFree rfl (isOnly_dataScript text)

/-- A head that a script is placed in only gets other children. -/
theorem placeInHead_eq_withChildren (new head : Element) : ∃ cs, placeInHead new head = head.withChildren cs := by
  rw [placeInHead, placeAfterTitle?_eq_map]
  cases placeAfterTitleL? new head.children with
  | none => exact ⟨head.children ++ [new], rfl⟩
  | some cs => exact ⟨cs, rfl⟩

/-! ### in the first head -/

theorem placeInFirstHeadL?_eq_none {new : Element} {es : List Element} (hnone : anyL isHead es = false)
    (heach : ∀ e ∈ es, any isHead e = false → placeInFirstHead? new e = none) : placeInFirstHeadL? new es = none := by
  induction es with
  | nil => rfl
  | cons e es ih =>
    obtain ⟨he, hmore⟩ := List.forall_mem_cons.mp heach
    rw [anyL, Bool.or_eq_false_iff] at hnone
    simp [placeInFirstHeadL?, he hnone.1, ih hnone.2 hmore]

theorem placeInFirstHead?_of_not_isHead {new : Element} (he : isHead e = false) :
    placeInFirstHead? new e = (placeInFirstHeadL? new e.children).map e.withChildren := by
  cases e
  rw [placeInFirstHead?, he]
  rfl

/-- A tree that a script is placed in only gets other children. -/
theorem placeInFirstHead?_eq_withChildren {new e' : Element} (h : placeInFirstHead? new e = some e') :
    ∃ cs, e' = e.withChildren cs := by
  cases hhead : isHead e with
  | true =>
    obtain ⟨cs, hcs⟩ := placeInHead_eq_withChildren new e
    refine ⟨cs, ?_⟩
    rw [← hcs]
    cases e
    rw [placeInFirstHead?, if_pos hhead] at h
    exact (Option.some.inj h).symm
  | false =>
    rw [placeInFirstHead?_of_not_isHead hhead, Option.map_eq_some_iff] at h
    obtain ⟨cs, _, rfl⟩ := h
    exact ⟨cs, rfl⟩

theorem placeInFirstHead?_eq_none {new : Element} (h : any isHead e = false) : placeInFirstHead? new e = none := by
  induction e using induct with
  | step kind attributes text children tail ih =>
    obtain ⟨he, hbelow⟩ := any_eq_false_iff.mp h
    rw [placeInFirstHead?_of_not_isHead he, Option.map_eq_none_iff]
    exact placeInFirstHeadL?_eq_none hbelow ih

theorem placeInFirstHeadL?_skip {new : Element} (hbefore : anyL isHead before = false) (es : List Element) :
    placeInFirstHeadL? new (before ++ es) = (placeInFirstHeadL? new es).map (before ++ ·) := by
  induction before with
  | nil => simp
  | cons b before ih =>
    rw [anyL, Bool.or_eq_false_iff] at hbefore
    simp [placeInFirstHeadL?, placeInFirstHead?_eq_none hbefore.1, ih hbefore.2, Function.comp_def]

/-- The script stands at its place in the first head, and nothing else changes. -/
theorem placeInFirstHead?_spec (text : String) (hfree : any isDataScript e = false) (h : IsFirst isHead e a head) :
    ∃ cs ds place, placeInFirstHead? (dataScript text) e = some (e.withChildren cs) ∧
      contentL cs = contentL e.children ∧ contentL ds = contentL head.children ∧
      IsFirst isHead (e.withChildren cs) a (head.withChildren ds) ∧ IsScriptPlace (head.withChildren ds) place ∧
      IsOnly isDataScript (e.withChildren cs) (a ++ place) (dataScript text) := by
  induction a generalizing e with
  | nil =>
    obtain rfl := Option.some.inj h.at_eq
    obtain ⟨cs, place, hplace, hcontent, hscriptPlace, honly⟩ := placeInHead_spec text h.holds hfree
    refine ⟨cs, cs, place, ?_, hcontent, hcontent, IsFirst.root (by simpa using h.holds), hscriptPlace, honly⟩
    have hhead := h.holds
    rw [← hplace]
    cases e
    rw [placeInFirstHead?, if_pos hhead]
  | cons i a ih =>
    obtain ⟨he, before, c, after, hchildren, rfl, hbefore, hc⟩ := h.of_cons
    obtain ⟨hescript, hbeforeFree, hcFree, hafterFree⟩ := any_isDataScript_split hfree hchildren
    obtain ⟨cs, ds, place, hplace, hcontent, hheadContent, hfirst, hscriptPlace, honly⟩ := ih hcFree hc
    refine ⟨before ++ c.withChildren cs :: after, ds, place, ?_, ?_, hheadContent, ?_, hscriptPlace, ?_⟩
    · rw [placeInFirstHead?_of_not_isHead he, hchildren, placeInFirstHeadL?_skip hbefore, placeInFirstHeadL?, hplace]
      rfl
    · rw [hchildren]
      exact contentL_withChildren hcontent before after
    · exact IsFirst.child (by simpa using he) (children_withChildren _ _) hbefore hfirst
    · exact IsOnly.child (by simpa using hescript) (children_withChildren _ _) hbeforeFree hafterFree honly

end Head

end LinkedData.Element
