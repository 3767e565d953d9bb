import LinkedData.Proofs.Document.Tags
import LinkedData.Proofs.Filter
import LinkedData.Proofs.Json.Inert
import LinkedData.Template

/-!
# Scripts that nothing breaks out of

The text of linked data is inert, so in the markup of a script the first end tag is the one behind this text.

* `Markup.splitText_of_no_tag`, `Markup.splitBefore?_of_no_tag`, `Markup.splitScript?_of_no_tag`: the ways to look for
  the end of a text all find the first tag;
* `scriptMarkup_cut`: cutting the markup of a script at the first end tag gives the text back;
* `lookup_registerScripts`: a template engine has the filter for such markup after its registration, and no other one is
  changed by that.
-/

namespace LinkedData

/-- The start tag of a script of linked data. -/
def scriptStart : String := "<script type=\"application/ld+json\">"

/-- The end tag of a script. -/
def scriptEnd : String := "</script>"

namespace Markup

/-! ### texts without tags -/

section NoTag

variable {text : List Char} (rest : List Char)

theorem splitText_of_no_tag (h : '<' ∉ text) :
    splitText (text ++ '<' :: rest) = (String.ofList text, '<' :: rest) := by
  have htext : IsText (String.ofList text) := by rwa [IsText, String.toList_ofList]
  have hrest : AtTag ('<' :: rest) := fun c hc => (Option.some.inj hc).symm
  have hsplit := splitText_of_isText htext hrest
  rwa [String.toList_ofList] at hsplit

theorem isPrefixOf_of_ne {c d : Char} {cs ds : List Char} (h : c ≠ d) : (c :: cs).isPrefixOf (d :: ds) = false := by
  rw [List.isPrefixOf_cons_cons, beq_eq_false_iff_ne.mpr h, Bool.false_and]

theorem splitBefore?_cons {mark : List Char} {c : Char} (h : mark.isPrefixOf (c :: rest) = false) :
    splitBefore? mark (c :: rest) = (splitBefore? mark rest).map fun (before, after) => (c :: before, after) := by
  rw [splitBefore?, h, if_neg Bool.false_ne_true]

theorem splitBefore?_of_no_tag {name : List Char} (h : '<' ∉ text) :
    splitBefore? ('<' :: name) (text ++ '<' :: (name ++ rest)) = some (text, '<' :: (name ++ rest)) := by
  induction text with
  | nil =>
    have hprefix : ('<' :: name).isPrefixOf ('<' :: (name ++ rest)) = true := by simp
    rw [List.nil_append, splitBefore?, if_pos hprefix]
  | cons c text ih =>
    obtain ⟨hc, htext⟩ := List.ne_and_not_mem_of_not_mem_cons h
    rw [List.cons_append, splitBefore?_cons _ (isPrefixOf_of_ne hc), ih htext]
    rfl

theorem beginsTag_of_ne {c : Char} (mark name : List Char) (h : c ≠ '<') :
    beginsTag ('<' :: mark) name (c :: rest) = false := by
  have hlength : ('<' :: mark).length + name.length = mark.length + name.length + 1 := by
    rw [List.length_cons]
    omega
  have hne : (c.toLower == '<') = false := beq_eq_false_iff_ne.mpr (Text.toLower_ne (by decide) h)
  simp only [beginsTag, hlength, List.take_succ_cons, List.map_cons, List.cons_append, List.cons_beq_cons, hne,
    Bool.false_and]

/-- A character that begins no tag begins no comment either. -/
theorem splitScript?_cons {c : Char} (h : c ≠ '<') : splitScript? .outside (c :: rest) =
    (splitScript? .outside rest).map fun (content, rest) => (c :: content, rest) := by
  have hend : ¬ (ScriptDepth.outside ≠ .inNested ∧ beginsTag ['<', '/'] "script".toList (c :: rest) = true) := by
    rw [beginsTag_of_ne rest ['/'] _ h]
    exact fun hends => Bool.false_ne_true hends.2
  have hcomment : "<!--".toList.isPrefixOf (c :: rest) = false := isPrefixOf_of_ne h.symm
  rw [splitScript?, if_neg hend, ScriptDepth.after, hcomment, if_neg Bool.false_ne_true]

theorem splitScript?_of_no_tag (h : '<' ∉ text) :
    splitScript? .outside (text ++ (scriptEnd.toList ++ rest)) = some (text, scriptEnd.toList ++ rest) := by
  induction text with
  | nil => rfl
  | cons c text ih =>
    obtain ⟨hc, htext⟩ := List.ne_and_not_mem_of_not_mem_cons h
    rw [List.cons_append, splitScript?_cons _ hc.symm, ih htext]
    rfl

end NoTag

/-! ### script elements -/

section Script

variable (text : String)

theorem isTagName_script : IsTagName "script" :=
  ⟨⟨'s', "cript".toList, rfl, by decide⟩, by simp [endsTagName, isTagBlank]⟩

theorem isAttribute_dataScript : ∀ a ∈ (Element.dataScript text).attributes, IsAttribute a := by
  refine List.forall_mem_singleton.mpr ⟨?_, fun value hvalue => ?_⟩
  · exact ⟨'t', "ype".toList, rfl, by decide, by simp [isAttributeChar, endsTagName, isTagBlank]⟩
  · obtain rfl := Option.some.inj hvalue
    decide

end Script

end Markup

/-! ### the markup of a script -/

section Script

variable {context text : String} {tree : Value}

theorem scriptMarkup_eq (h : render context tree = .ok text) :
    scriptMarkup context tree = .ok (scriptStart ++ text ++ scriptEnd) := by
  rw [scriptMarkup, h]
  rfl

/-- **Nothing breaks out of a script.** The text of a tree has no character that markup gives a meaning to and no
control character. So the first tag behind the start tag of its script is the end tag, and what stands before the first
beginning of an end tag is the start tag and the text, whatever the tree and the context hold. -/
theorem scriptMarkup_cut (h : render context tree = .ok text) :
    (∀ c ∈ text.toList, c ≠ '<' ∧ c ≠ '>' ∧ c ≠ '&' ∧ 0x20 ≤ c.toNat) ∧
    ∃ markup, scriptMarkup context tree = .ok markup ∧ markup = scriptStart ++ text ++ scriptEnd ∧
      Markup.splitText (markup.toList.drop scriptStart.toList.length) = (text, scriptEnd.toList) ∧
      Markup.splitBefore? "</script".toList markup.toList =
        some (scriptStart.toList ++ text.toList, scriptEnd.toList) := by
  have hinert := isInert_render h
  have htag := hinert.no_tag
  have hmarkup : (scriptStart ++ text ++ scriptEnd).toList =
      scriptStart.toList ++ (text.toList ++ scriptEnd.toList) := by
    rw [String.toList_append, String.toList_append, List.append_assoc]
  refine ⟨hinert, _, scriptMarkup_eq h, rfl, ?_, ?_⟩
  · rw [hmarkup, List.drop_left]
    have hcut := Markup.splitText_of_no_tag "/script>".toList htag
    rw [String.ofList_toList] at hcut
    exact hcut
  · rw [hmarkup]
    -- The start tag begins like a tag, but not like an end tag.
    have hstart : '<' ∉ scriptStart.toList.tail ++ text.toList := List.not_mem_append (by decide) htag
    have hcut : Markup.splitBefore? "</script".toList
        ((scriptStart.toList.tail ++ text.toList) ++ scriptEnd.toList) =
          some (scriptStart.toList.tail ++ text.toList, scriptEnd.toList) :=
      Markup.splitBefore?_of_no_tag ['>'] hstart
    show Markup.splitBefore? "</script".toList
      ('<' :: (scriptStart.toList.tail ++ (text.toList ++ scriptEnd.toList))) = _
    rw [Markup.splitBefore?_cons _ rfl, ← List.append_assoc, hcut]
    rfl

/-- A tree whose keys and texts ask to end the script, to begin a comment and to begin another script. -/
def hostileTree : Value :=
  .list [.map [
    (.str "</script>", .str "<!--<script>"),
    (.scalar .null, .tuple [.scalar (.bool true), .scalar (.int (-1)), .map []]),
    (.scalar (.int 7), .str "]]>&\n\x00\x1f"),
    (.scalar (.bool false), .list [.str "</SCRIPT\t>"])]]

/-- The text of this tree. -/
def hostileText : String :=
  "[\x7b\"@context\":\"\\u003c/script\\u003e\",\"\\u003c/script\\u003e\":\"\\u003c!--\\u003cscript\\u003e\"," ++
  "\"null\":[true,-1,\x7b\x7d],\"7\":\"]]\\u003e\\u0026\\n\\u0000\\u001f\"," ++
  "\"false\":[\"\\u003c/SCRIPT\\t\\u003e\"]\x7d]"

theorem hostileTree_is_cut : render "</script>" hostileTree = .ok hostileText ∧
    ∃ markup, scriptMarkup "</script>" hostileTree = .ok markup ∧
      Markup.splitBefore? "</script".toList markup.toList =
        some (scriptStart.toList ++ hostileText.toList, scriptEnd.toList) := by
  have h : render "</script>" hostileTree = .ok hostileText := by decide +kernel
  obtain ⟨_, markup, hmarkup, _, _, hcut⟩ := scriptMarkup_cut h
  exact ⟨h, markup, hmarkup, hcut⟩

end Script

/-! ### the filter for scripts -/

theorem lookup_registerScripts (filters : List (String × MarkupFilter)) (context name : String) :
    (registerScripts filters context).lookup name =
      if name = scriptFilterName then some (scriptMarkup context) else filters.lookup name :=
  Registry.lookup_register ..

end LinkedData
