import LinkedData.Proofs.Document.Address

/-!
# What a document holds besides linked data

* `Element.skeleton`: a document without its scripts of linked data, where texts stand among the elements. So the text
  after a script that is left out joins the text before it;
* `Element.skeleton_dropScripts`: dropping the scripts changes nothing else;
* `Element.eq_of_skeleton_eq`: a document without scripts is told by its skeleton.
-/

namespace LinkedData

/-- What can stand in the content of an element. -/
inductive Node where
  | char (c : Char)
  | element (kind : ElementKind) (attributes : List (String × Option String)) (content : List Node)

namespace Element

/-! ### content -/

/-- The characters of a text. -/
def textNodes (text : String) : List Node := text.toList.map Node.char

mutual
/-- What stands between the tags of an element, without scripts of linked data. -/
def content : Element → List Node
  | mk _ _ text children _ => textNodes text ++ contentL children
def contentL : List Element → List Node
  | [] => []
  | e :: es =>
    if isDataScript e then textNodes e.tail ++ contentL es
    else .element e.kind e.attributes (content e) :: (textNodes e.tail ++ contentL es)
end

/-- The element without the scripts of linked data below it, and without the text after its end. -/
def skeleton (e : Element) : Node := .element e.kind e.attributes e.content

theorem textNodes_empty : textNodes "" = [] := rfl

theorem textNodes_append (s t : String) : textNodes (s ++ t) = textNodes s ++ textNodes t := by
  simp [textNodes]

theorem content_eq (e : Element) : e.content = textNodes e.text ++ contentL e.children := by
  cases e
  rfl

theorem contentL_append (es fs : List Element) : contentL (es ++ fs) = contentL es ++ contentL fs := by
  induction es with
  | nil => rfl
  | cons e es ih =>
    rw [List.cons_append, contentL, contentL, ih]
    split <;> simp

/-! ### dropping scripts -/

section AppendTail

variable (e : Element) (t : String)

@[simp] theorem kind_appendTail : (e.appendTail t).kind = e.kind := by cases e; rfl
@[simp] theorem attributes_appendTail : (e.appendTail t).attributes = e.attributes := by cases e; rfl
@[simp] theorem text_appendTail : (e.appendTail t).text = e.text := by cases e; rfl
@[simp] theorem children_appendTail : (e.appendTail t).children = e.children := by cases e; rfl
@[simp] theorem tail_appendTail : (e.appendTail t).tail = e.tail ++ t := by cases e; rfl

@[simp] theorem content_appendTail : (e.appendTail t).content = e.content := by simp [content_eq]

@[simp] theorem hasTag_appendTail (name : String) : (e.appendTail t).hasTag name = e.hasTag name := by simp [hasTag]

@[simp] theorem isDataScript_appendTail : (e.appendTail t).isDataScript = e.isDataScript := by simp [isDataScript]

@[simp] theorem appendTail_empty : e.appendTail "" = e := by cases e; simp [appendTail]

theorem appendTail_appendTail (s : String) : (e.appendTail s).appendTail t = e.appendTail (s ++ t) := by
  cases e
  simp [appendTail, String.append_assoc]

end AppendTail

section DropScripts

variable (e : Element)

@[simp] theorem kind_dropScripts : (dropScripts e).kind = e.kind := by cases e; rfl
@[simp] theorem attributes_dropScripts : (dropScripts e).attributes = e.attributes := by cases e; rfl
@[simp] theorem tail_dropScripts : (dropScripts e).tail = e.tail := by cases e; rfl

@[simp] theorem children_dropScripts : (dropScripts e).children = (dropScriptsL e.children).2 := by cases e; rfl

@[simp] theorem text_dropScripts : (dropScripts e).text = e.text ++ (dropScriptsL e.children).1 := by cases e; rfl

@[simp] theorem hasTag_dropScripts (name : String) : (dropScripts e).hasTag name = e.hasTag name := by simp [hasTag]

@[simp] theorem isDataScript_dropScripts : (dropScripts e).isDataScript = e.isDataScript := by simp [isDataScript]

end DropScripts

theorem contentL_dropScriptsL {es : List Element} (h : ∀ e ∈ es, (dropScripts e).content = e.content) :
    textNodes (dropScriptsL es).1 ++ contentL (dropScriptsL es).2 = contentL es := by
  induction es with
  | nil => rfl
  | cons e es ih =>
    obtain ⟨he, hes⟩ := List.forall_mem_cons.mp h
    rw [dropScriptsL, contentL]
    by_cases hscript : isDataScript e = true
    · simp [hscript, textNodes_append, ← ih hes]
    · simp [hscript, contentL, textNodes_empty, textNodes_append, he, ← ih hes]

theorem content_dropScripts (e : Element) : (dropScripts e).content = e.content := by
  induction e using induct with
  | step kind attributes text children tail ih =>
    rw [content_eq, text_dropScripts, children_dropScripts, textNodes_append, List.append_assoc]
    exact congrArg _ (contentL_dropScriptsL ih)

theorem skeleton_dropScripts (e : Element) : (dropScripts e).skeleton = e.skeleton := by
  simp [skeleton, content_dropScripts]

/-- No script of linked data is below the element. -/
def ScriptFree (e : Element) : Prop := anyL isDataScript e.children = false

theorem anyL_isDataScript_dropScriptsL {es : List Element} (h : ∀ e ∈ es, (dropScripts e).ScriptFree) :
    anyL isDataScript (dropScriptsL es).2 = false := by
  induction es with
  | nil => rfl
  | cons e es ih =>
    obtain ⟨he, hes⟩ := List.forall_mem_cons.mp h
    rw [dropScriptsL]
    by_cases hscript : isDataScript e = true
    · rw [if_pos hscript]
      exact ih hes
    · have hbelow : anyL isDataScript (dropScriptsL e.children).2 = false := by
        rw [← children_dropScripts]
        exact he
      rw [if_neg hscript, anyL, any_eq, ih hes]
      simp [hscript, hbelow]

theorem scriptFree_dropScripts (e : Element) : (dropScripts e).ScriptFree := by
  induction e using induct with
  | step kind attributes text children tail ih => exact anyL_isDataScript_dropScriptsL ih

/-! ### documents from skeletons -/

theorem ext_fields {e f : Element} (hkind : e.kind = f.kind) (hattributes : e.attributes = f.attributes)
    (htext : e.text = f.text) (hchildren : e.children = f.children) (htail : e.tail = f.tail) : e = f := by
  cases e
  cases f
  simp_all [kind, attributes, text, children, tail]

/-- The content begins with an element, if with anything. -/
def BeginsElement (ns : List Node) : Prop := ∀ c rest, ns ≠ .char c :: rest

section Siblings

variable {e f : Element} {es fs : List Element}

theorem anyL_cons_eq_false : anyL isDataScript (e :: es) = false ↔
    e.isDataScript = false ∧ e.ScriptFree ∧ anyL isDataScript es = false := by
  rw [anyL, Bool.or_eq_false_iff, any_eq_false_iff, and_assoc, ScriptFree]

theorem contentL_cons (h : e.isDataScript = false) :
    contentL (e :: es) = .element e.kind e.attributes e.content :: (textNodes e.tail ++ contentL es) := by
  simp [contentL, h]

theorem beginsElement_contentL (h : anyL isDataScript es = false) : BeginsElement (contentL es) := by
  intro c rest
  cases es with
  | nil => simp [contentL]
  | cons e es => simp [contentL_cons (anyL_cons_eq_false.mp h).1]

/-- The text before the first element is told by a content. -/
theorem textNodes_append_inj {s t : String} {ms ns : List Node} (hms : BeginsElement ms) (hns : BeginsElement ns)
    (h : textNodes s ++ ms = textNodes t ++ ns) : s = t ∧ ms = ns := by
  have hlists : ∀ cs ds : List Char, cs.map Node.char ++ ms = ds.map Node.char ++ ns → cs = ds ∧ ms = ns := by
    intro cs
    induction cs with
    | nil =>
      intro ds hds
      cases ds with
      | nil => exact ⟨rfl, hds⟩
      | cons d ds => exact absurd hds (hms d _)
    | cons c cs ih =>
      intro ds hds
      cases ds with
      | nil => exact absurd hds.symm (hns c _)
      | cons d ds =>
        simp only [List.map_cons, List.cons_append, List.cons.injEq, Node.char.injEq] at hds
        obtain ⟨rfl, hrest⟩ := hds
        obtain ⟨rfl, heq⟩ := ih ds hrest
        exact ⟨rfl, heq⟩
  obtain ⟨hst, hrest⟩ := hlists _ _ h
  exact ⟨String.toList_inj.mp hst, hrest⟩

/-- Siblings without scripts are told by their content, if each of them is. -/
theorem contentL_inj (hes : anyL isDataScript es = false) (hfs : anyL isDataScript fs = false)
    (heach : ∀ e ∈ es, ∀ f : Element, e.ScriptFree → f.ScriptFree → e.content = f.content →
      e.text = f.text ∧ e.children = f.children)
    (h : contentL es = contentL fs) : es = fs := by
  induction es generalizing fs with
  | nil =>
    cases fs with
    | nil => rfl
    | cons f fs => simp [contentL, (anyL_cons_eq_false.mp hfs).1] at h
  | cons e es ih =>
    obtain ⟨hescript, hebelow, hes⟩ := anyL_cons_eq_false.mp hes
    cases fs with
    | nil => simp [contentL, hescript] at h
    | cons f fs =>
      obtain ⟨hfscript, hfbelow, hfs⟩ := anyL_cons_eq_false.mp hfs
      obtain ⟨heach, hmore⟩ := List.forall_mem_cons.mp heach
      rw [contentL_cons hescript, contentL_cons hfscript, List.cons.injEq, Node.element.injEq] at h
      obtain ⟨⟨hkind, hattributes, hcontent⟩, hrest⟩ := h
      obtain ⟨htext, hchildren⟩ := heach f hebelow hfbelow hcontent
      -- No text is left between two elements but the tail of the first, since none of them is a script.
      obtain ⟨htail, hrest⟩ := textNodes_append_inj (beginsElement_contentL hes) (beginsElement_contentL hfs) hrest
      rw [ext_fields hkind hattributes htext hchildren htail, ih hes hfs hmore hrest]

theorem content_inj (he : e.ScriptFree) (hf : f.ScriptFree) (h : e.content = f.content) :
    e.text = f.text ∧ e.children = f.children := by
  induction e using induct generalizing f with
  | step kind attributes text children tail ih =>
    rw [content_eq, content_eq] at h
    obtain ⟨htext, hrest⟩ := textNodes_append_inj (beginsElement_contentL he) (beginsElement_contentL hf) h
    exact ⟨htext, contentL_inj he hf (fun c hc f => ih c hc) hrest⟩

/-- **A document without linked data is told by its skeleton** and the text after its end. -/
theorem eq_of_skeleton_eq (he : e.ScriptFree) (hf : f.ScriptFree) (hskeleton : e.skeleton = f.skeleton)
    (htail : e.tail = f.tail) : e = f := by
  obtain ⟨hkind, hattributes, hcontent⟩ := Node.element.inj hskeleton
  obtain ⟨htext, hchildren⟩ := content_inj he hf hcontent
  exact ext_fields hkind hattributes htext hchildren htail

end Siblings

end Element

end LinkedData
