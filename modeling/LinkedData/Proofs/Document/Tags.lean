import LinkedData.Proofs.Document.Attributes
import LinkedData.Proofs.Document.Ending

/-!
# Tags and texts read back

What elements are made of is read as it is written under conditions that all that is read meets.

* `Markup.readElement?_startTag`: a start tag is read as the name and the attributes that it is written from;
* `Markup.IsText`: a text without tags (`Markup.splitText_of_isText`, `Markup.isText_splitText`);
* `Markup.IsComment`, `Markup.IsContent`: a text that ends where its comment or its element ends
  (`Markup.isComment_of_splitBefore?`, `Markup.isContent_of_splitContent?`).
-/

namespace LinkedData.Markup

/-! ### tags -/

/-- A name that is read up to its end: it begins with a letter, and none of its characters ends it. -/
structure IsTagName (name : String) : Prop where
  letter : ∃ c cs, name.toList = c :: cs ∧ c.isAlpha = true
  inner : ∀ c ∈ name.toList, endsTagName c = false

/-- The content of an element whose content is text, up to its end tag, and the rest. -/
def splitContent? (name : String) (cs : List Char) : Option (List Char × List Char) :=
  if name = "script" then splitScript? .outside cs else splitRaw? name.toList cs

/-- The element that the given start tag belongs to, read from what follows the tag. -/
def readContent? (fuel : Nat) (name : String) (attributes : List (String × Option String)) (cs : List Char) :
    Option (Element × List Char) :=
  if voidTags.contains name then some (.mk (.tag name) attributes "" [] "", cs)
  else if rawTags.contains name then
    (splitContent? name cs).bind fun found =>
      (readEndTag? name found.2).bind fun rest =>
        some (.mk (.tag name) attributes (String.ofList found.1) [] "", rest)
  else
    (readElements? fuel (splitText cs).2).bind fun found =>
      (readEndTag? name found.2).bind fun rest => some (.mk (.tag name) attributes (splitText cs).1 found.1 "", rest)

section Tags

variable {name : String} {attributes : List (String × Option String)} {cs rest : List Char}

theorem readElement?_comment (fuel : Nat) (cs : List Char) :
    readElement? (fuel + 1) ('<' :: '!' :: '-' :: '-' :: cs) =
      (splitBefore? "-->".toList cs).bind fun found =>
        some (.mk .comment [] (String.ofList found.1) [] "", found.2.drop 3) := by
  rw [readElement?]
  rfl

/-- What does not begin with a comment is read from its start tag on. -/
theorem readElement?_tag (fuel : Nat) (h : ∀ more, cs ≠ '!' :: '-' :: '-' :: more) :
    readElement? (fuel + 1) ('<' :: cs) =
      if cs.head?.any Char.isAlpha then
        (readAttributes? (cs.length + 1) (cs.dropWhile (!endsTagName ·))).bind fun found =>
          readContent? fuel (String.ofList (cs.takeWhile (!endsTagName ·))) found.1 found.2
      else none := by
  rw [readElement?]
  · cases cs.head?.any Char.isAlpha with
    | false => rfl
    | true =>
      rw [if_neg (by decide), if_pos rfl]
      cases readAttributes? (cs.length + 1) (cs.dropWhile (!endsTagName ·)) with
      | none => rfl
      | some found =>
        simp only [Option.bind_eq_bind, Option.bind_some]
        rw [readContent?, splitContent?]
        by_cases hscript : String.ofList (cs.takeWhile (!endsTagName ·)) = "script"
        · simp only [if_pos hscript]
          rfl
        · simp only [if_neg hscript]
          rfl
  · exact fun more hmore => h more hmore

theorem length_le_flatMap_attributeText (attributes : List (String × Option String)) :
    attributes.length ≤ (attributes.flatMap attributeText).length := by
  induction attributes with
  | nil => exact Nat.le_refl 0
  | cons a attributes ih =>
    have hpos : 0 < (attributeText a).length := by
      obtain ⟨name, value⟩ := a
      cases value <;> exact Nat.succ_pos _
    rw [List.flatMap_cons, List.length_append, List.length_cons]
    omega

/-- A start tag does not begin as an end tag does. -/
theorem IsTagName.startTag_eq (hname : IsTagName name) (attributes : List (String × Option String)) :
    ∃ c cs, startTag name attributes = '<' :: c :: cs ∧ c ≠ '/' := by
  obtain ⟨c, cs, hcs, hletter⟩ := hname.letter
  refine ⟨c, _, by rw [startTag, hcs]; rfl, ?_⟩
  rintro rfl
  cases hletter

/-- A start tag is read as the name and the attributes that it is written from. -/
theorem readElement?_startTag (hname : IsTagName name) (hattributes : ∀ a ∈ attributes, IsAttribute a) (fuel : Nat)
    (rest : List Char) :
    readElement? (fuel + 1) (startTag name attributes ++ rest) = readContent? fuel name attributes rest := by
  have hinner : ∀ c ∈ name.toList, (!endsTagName c) = true := fun c hc => by rw [hname.inner c hc]; rfl
  have htag : startTag name attributes ++ rest =
      '<' :: (name.toList ++ (attributes.flatMap attributeText ++ '>' :: rest)) := by
    simp [startTag]
  have hlength : attributes.length < (attributes.flatMap attributeText ++ '>' :: rest).length + 1 := by
    have hle := length_le_flatMap_attributeText attributes
    rw [List.length_append]
    omega
  have hread := readAttributes?_written hattributes rest
  -- the attributes begin with a character that ends the name
  have hafter : ∀ d ∈ (attributes.flatMap attributeText ++ '>' :: rest).head?, (!endsTagName d) = false := by
    intro d hd
    obtain ⟨hchar, hne⟩ := head?_flatMap_attributeText attributes rest d hd
    simpa [isAttributeChar, hne] using hchar
  generalize attributes.flatMap attributeText ++ '>' :: rest = after at *
  have hhead : (name.toList ++ after).head?.any Char.isAlpha = true := by
    obtain ⟨c, cs, hcs, hletter⟩ := hname.letter
    rw [hcs]
    exact hletter
  have hcomment : ∀ more, name.toList ++ after ≠ '!' :: '-' :: '-' :: more := by
    rintro more hmore
    rw [hmore] at hhead
    cases hhead
  rw [htag, readElement?_tag fuel hcomment, if_pos hhead, Text.takeWhile_run hinner hafter,
    Text.dropWhile_run hinner hafter, String.ofList_toList,
    hread _ (Nat.lt_of_lt_of_le hlength (by rw [List.length_append]; omega))]
  rfl

theorem endTag_append (hvoid : voidTags.contains name = false) (rest : List Char) :
    endTag name ++ rest = '<' :: '/' :: (name.toList ++ '>' :: rest) := by
  rw [endTag, if_neg (Bool.eq_false_iff.mp hvoid)]
  simp

theorem readEndTag?_endTag (hvoid : voidTags.contains name = false) (rest : List Char) :
    readEndTag? name (endTag name ++ rest) = some rest := by
  have hmark : endTag name ++ rest = ("</".toList ++ name.toList) ++ '>' :: rest := endTag_append hvoid rest
  have hprefix : ("</".toList ++ name.toList).isPrefixOf (endTag name ++ rest) = true := by
    rw [hmark, List.isPrefixOf_iff_prefix]
    exact List.prefix_append _ _
  rw [readEndTag?, if_pos hprefix, hmark, List.drop_left]
  rfl

/-- What is read behind an end tag follows a text that begins as the end tag does. -/
theorem readEndTag?_eq_some (h : readEndTag? name cs = some rest) :
    cs.take (2 + name.length) = '<' :: '/' :: name.toList := by
  rw [readEndTag?] at h
  split at h
  · next hprefix =>
    have hlength : 2 + name.length = ("</".toList ++ name.toList).length := by
      rw [List.length_append, String.length_toList]
      rfl
    rw [hlength, ← List.prefix_iff_eq_take.mp (List.isPrefixOf_iff_prefix.mp hprefix)]
    rfl
  · cases h

end Tags

/-! ### texts -/

/-- A text without tags. -/
def IsText (text : String) : Prop := '<' ∉ text.toList

/-- The content of a comment, which does not end before the comment. -/
def IsComment (content : List Char) : Prop :=
  ∀ rest, splitBefore? "-->".toList (content ++ ("-->".toList ++ rest)) = some (content, "-->".toList ++ rest)

/-- The content of an element whose content is text, which does not end before the element. -/
def IsContent (name : String) (content : List Char) : Prop :=
  ∀ rest, splitContent? name (content ++ (endTag name ++ rest)) = some (content, endTag name ++ rest)

section Texts

variable {name text : String} {cs rest content after : List Char}

/-- The end of a text: the end of the document or a tag. -/
def AtTag (cs : List Char) : Prop := ∀ c ∈ cs.head?, c = '<'

theorem isText_empty : IsText "" := List.not_mem_nil

theorem IsText.append {s t : String} (hs : IsText s) (ht : IsText t) : IsText (s ++ t) := by
  rw [IsText, String.toList_append]
  exact List.not_mem_append hs ht

theorem splitText_of_isText (htext : IsText text) (hrest : AtTag rest) :
    splitText (text.toList ++ rest) = (text, rest) := by
  have hall : ∀ c ∈ text.toList, (c != '<') = true := fun c hc => bne_iff_ne.mpr (ne_of_mem_of_not_mem hc htext)
  have hstop : ∀ c ∈ rest.head?, (c != '<') = false := fun c hc => by rw [hrest c hc]; rfl
  rw [splitText, Text.takeWhile_run hall hstop, Text.dropWhile_run hall hstop, String.ofList_toList]

theorem isText_splitText (cs : List Char) : IsText (splitText cs).1 := by
  rw [splitText, IsText, String.toList_ofList]
  intro hmem
  have hne : ('<' != '<') = true := List.mem_takeWhile_imp (p := (· != '<')) hmem
  exact absurd hne (by decide)

theorem isComment_of_splitBefore? (h : splitBefore? "-->".toList cs = some (content, after)) : IsComment content := by
  rw [splitBefore?_eq] at h
  obtain ⟨_, hmark⟩ := stops_of_seek? h
  obtain ⟨more, rfl⟩ := List.isPrefixOf_iff_prefix.mp hmark
  intro rest
  rw [splitBefore?_eq]
  exact seek?_ending (hasWindow_mark (n := 2) (by decide)) h rfl (List.cons_ne_nil _ _) fun _ _ => rfl

section EndTag

variable (hvoid : voidTags.contains name = false) (hend : after.take (2 + name.length) = '<' :: '/' :: name.toList)
include hvoid hend

theorem take_endTag (rest : List Char) :
    after.take (2 + name.length) = (endTag name ++ rest).take (2 + name.length) := by
  rw [hend, endTag_append hvoid, Nat.add_comm, List.take_succ_cons, List.take_succ_cons, ← String.length_toList,
    List.take_left]

/-- What begins as an end tag does and ends a text there ends it if it is replaced by the end tag. -/
theorem beginsTag_endTag (h : beginsTag ['<', '/'] name.toList after = true) (rest : List Char) :
    beginsTag ['<', '/'] name.toList (endTag name ++ rest) = true := by
  have hlength : ['<', '/'].length + name.toList.length = 2 + name.length := by rw [String.length_toList]; rfl
  have hnext : (endTag name ++ rest)[2 + name.length]? = some '>' := by
    rw [endTag_append hvoid, Nat.add_comm, List.getElem?_cons_succ, List.getElem?_cons_succ, ← String.length_toList,
      List.getElem?_append_right (Nat.le_refl _), Nat.sub_self]
    rfl
  simp only [beginsTag, hlength, Bool.and_eq_true] at h ⊢
  rw [← take_endTag hvoid hend, hnext]
  exact ⟨h.1, rfl⟩

theorem isContent_of_splitContent? (h : splitContent? name cs = some (content, after)) : IsContent name content := by
  intro rest
  have hne : endTag name ++ rest ≠ [] := by
    rw [endTag_append hvoid]
    exact List.cons_ne_nil _ _
  have htake := take_endTag hvoid hend rest
  unfold splitContent? at h ⊢
  split
  · next hscript =>
    subst hscript
    rw [if_pos rfl, splitScript?_eq] at h
    rw [splitScript?_eq]
    refine seek?_ending hasWindow_script h htake hne fun depth hstops => ?_
    rw [endsScript, Bool.and_eq_true] at hstops ⊢
    exact ⟨hstops.1, beginsTag_endTag hvoid hend hstops.2 rest⟩
  · next hscript =>
    rw [if_neg hscript, splitRaw?_eq] at h
    rw [splitRaw?_eq]
    exact seek?_ending (hasWindow_tag (by rw [String.length_toList])) h htake hne fun _ hstops =>
      beginsTag_endTag hvoid hend hstops rest

end EndTag

end Texts

end LinkedData.Markup
