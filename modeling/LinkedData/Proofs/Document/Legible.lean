import LinkedData.Proofs.Document.Placement
import LinkedData.Proofs.Document.Tags

/-!
# Documents that read back

* `Markup.Legible`: an element that is written in such a way that it is read again;
* `Markup.Legible.isRead`: it is, and so are the elements below it and the text behind it;
* `Markup.legible_of_readElement?`: no others are read;
* `Markup.read?_write`: a legible document reads back, and `Markup.legible_of_read?`: all documents that are read are
  legible.
-/

namespace LinkedData.Markup

/-! ### legible elements -/

/-- An element that is written so that it can be read, with all elements below it and the text after it. -/
inductive Legible : Element → Prop where
  | comment {text tail : String} :
    IsComment text.toList → IsText tail → Legible (.mk .comment [] text [] tail)
  | void {name : String} {attributes : List (String × Option String)} {tail : String} :
    voidTags.contains name = true → IsTagName name → (∀ a ∈ attributes, IsAttribute a) → IsText tail →
      Legible (.mk (.tag name) attributes "" [] tail)
  | raw {name : String} {attributes : List (String × Option String)} {text tail : String} :
    voidTags.contains name = false → rawTags.contains name = true → IsTagName name →
      (∀ a ∈ attributes, IsAttribute a) → IsContent name text.toList → IsText tail →
      Legible (.mk (.tag name) attributes text [] tail)
  | parent {name : String} {attributes : List (String × Option String)} {text : String} {children : List Element}
      {tail : String} :
    voidTags.contains name = false → rawTags.contains name = false → IsTagName name →
      (∀ a ∈ attributes, IsAttribute a) → IsText text → (∀ e ∈ children, Legible e) → IsText tail →
      Legible (.mk (.tag name) attributes text children tail)

/-- The element without the text after it. -/
def withoutTail : Element → Element
  | .mk kind attributes text children _ => .mk kind attributes text children ""

theorem appendTail_withoutTail (e : Element) : (withoutTail e).appendTail e.tail = e := by
  obtain ⟨kind, attributes, text, children, tail⟩ := e
  rw [withoutTail, Element.appendTail, Element.tail, String.empty_append]

namespace Legible

variable {e : Element} {es : List Element}

theorem isText_tail (h : Legible e) : IsText e.tail := by
  cases h <;> assumption

theorem appendTail (h : Legible e) {tail : String} (htail : IsText tail) : Legible (e.appendTail tail) := by
  cases h with
  | comment htext hown => exact .comment htext (hown.append htail)
  | void hvoid hname hattributes hown => exact .void hvoid hname hattributes (hown.append htail)
  | raw hvoid hraw hname hattributes htext hown => exact .raw hvoid hraw hname hattributes htext (hown.append htail)
  | parent hvoid hraw hname hattributes htext hchildren hown =>
    exact .parent hvoid hraw hname hattributes htext hchildren (hown.append htail)

/-! ### legible elements are read -/

theorem writeElement_tag (name : String) (attributes : List (String × Option String)) (text : String)
    (children : List Element) (tail : String) : writeElement (.mk (.tag name) attributes text children tail) =
      startTag name attributes ++ text.toList ++ writeElements children ++ endTag name ++ tail.toList :=
  rfl

theorem writeElements_nil : writeElements [] = [] := rfl

theorem writeElements_cons (e : Element) (es : List Element) :
    writeElements (e :: es) = writeElement e ++ writeElements es :=
  rfl

/-- An element that is written begins with a tag, but no end tag. -/
theorem exists_writeElement_eq (h : Legible e) : ∃ c cs, writeElement e = '<' :: c :: cs ∧ c ≠ '/' := by
  have htagged : ∀ name attributes text children tail, IsTagName name →
      ∃ c cs, writeElement (.mk (.tag name) attributes text children tail) = '<' :: c :: cs ∧ c ≠ '/' := by
    intro name attributes text children tail hname
    obtain ⟨c, cs, hstart, hc⟩ := hname.startTag_eq attributes
    exact ⟨c, _, by rw [writeElement_tag, hstart]; rfl, hc⟩
  cases h with
  | comment => exact ⟨'!', _, rfl, by decide⟩
  | void _ hname => exact htagged _ _ _ _ _ hname
  | raw _ _ hname => exact htagged _ _ _ _ _ hname
  | parent _ _ hname => exact htagged _ _ _ _ _ hname

/-- Elements that are read up to an end tag. -/
theorem readElements?_end (fuel : Nat) (more : List Char) :
    readElements? (fuel + 1) ('<' :: '/' :: more) = some ([], '<' :: '/' :: more) := by
  rw [readElements?]
  rfl

theorem readElements?_cons (fuel : Nat) {c : Char} (hc : c ≠ '/') (cs : List Char) :
    readElements? (fuel + 1) ('<' :: c :: cs) =
      (readElement? fuel ('<' :: c :: cs)).bind fun found =>
        (readElements? fuel (splitText found.2).2).bind fun more =>
          some (found.1.appendTail (splitText found.2).1 :: more.1, more.2) := by
  rw [readElements?]
  · rfl
  · rintro more h
    exact hc (List.cons.inj (List.cons.inj h).2).1
  · exact List.cons_ne_nil _ _

/-- An element that is read from what is written for it, in front of anything and with a fuel for every character. -/
def IsRead (e : Element) : Prop :=
  ∀ fuel rest, (writeElement e).length ≤ fuel →
    readElement? fuel (writeElement e ++ rest) = some (withoutTail e, e.tail.toList ++ rest)

theorem atTag_writeElements (hes : ∀ e ∈ es, Legible e) (more : List Char) :
    AtTag (writeElements es ++ '<' :: '/' :: more) := by
  intro c hc
  cases es with
  | nil => exact (Option.some.inj hc).symm
  | cons e es =>
    obtain ⟨_, _, he, _⟩ := (hes e (List.mem_cons_self ..)).exists_writeElement_eq
    rw [writeElements_cons, he] at hc
    exact (Option.some.inj hc).symm

theorem readElements?_writeElements (hes : ∀ e ∈ es, Legible e) (hread : ∀ e ∈ es, IsRead e) (more : List Char) :
    ∀ fuel, (writeElements es).length < fuel →
      readElements? fuel (writeElements es ++ '<' :: '/' :: more) = some (es, '<' :: '/' :: more) := by
  induction es with
  | nil =>
    intro fuel hfuel
    obtain ⟨fuel, rfl⟩ := Nat.exists_eq_succ_of_ne_zero (Nat.ne_of_gt hfuel)
    exact readElements?_end fuel more
  | cons e es ih =>
    intro fuel hfuel
    obtain ⟨he, hes⟩ := List.forall_mem_cons.mp hes
    obtain ⟨heread, hread⟩ := List.forall_mem_cons.mp hread
    obtain ⟨fuel, rfl⟩ := Nat.exists_eq_succ_of_ne_zero (Nat.ne_of_gt (Nat.zero_lt_of_lt hfuel))
    obtain ⟨c, cs, hwritten, hc⟩ := he.exists_writeElement_eq
    -- the element takes at least one character, which pays for the step to its siblings
    have hlength : (writeElement e).length = cs.length + 2 := by rw [hwritten]; rfl
    rw [writeElements_cons, List.length_append] at hfuel
    have hfound := heread fuel (writeElements es ++ '<' :: '/' :: more) (by omega)
    rw [writeElements_cons, List.append_assoc]
    rw [hwritten, List.cons_append, List.cons_append] at hfound ⊢
    rw [readElements?_cons fuel hc, hfound, Option.bind_some,
      splitText_of_isText he.isText_tail (atTag_writeElements hes more), ih hes hread fuel (by omega), Option.bind_some,
      appendTail_withoutTail]

/-- A tagged element is read from what follows its start tag. -/
theorem readElement?_of_readContent? {name : String} {attributes : List (String × Option String)} {text tail : String}
    {children : List Element} {rest : List Char} (hname : IsTagName name)
    (hattributes : ∀ a ∈ attributes, IsAttribute a)
    (h : ∀ fuel, (writeElements children).length < fuel →
      readContent? fuel name attributes
          (text.toList ++ (writeElements children ++ (endTag name ++ (tail.toList ++ rest)))) =
        some (.mk (.tag name) attributes text children "", tail.toList ++ rest)) (fuel : Nat)
    (hfuel : (writeElement (.mk (.tag name) attributes text children tail)).length ≤ fuel) :
    readElement? fuel (writeElement (.mk (.tag name) attributes text children tail) ++ rest) =
      some (.mk (.tag name) attributes text children "", tail.toList ++ rest) := by
  -- the brackets of the start tag pay for the steps to the content and to the first child
  have hlength : (writeElements children).length + 2 ≤
      (writeElement (.mk (.tag name) attributes text children tail)).length := by
    simp only [writeElement_tag, startTag, List.length_append, List.length_cons, List.length_nil]
    omega
  obtain ⟨fuel, rfl⟩ : ∃ k, fuel = k + 1 := ⟨fuel - 1, by omega⟩
  simp only [writeElement_tag, List.append_assoc]
  rw [readElement?_startTag hname hattributes, h fuel (by omega)]

/-- **A legible element is read.** The text after it is left. -/
theorem isRead (h : Legible e) : IsRead e := by
  induction h with
  | @comment text tail htext =>
    intro fuel rest hfuel
    obtain ⟨fuel, rfl⟩ := Nat.exists_eq_succ_of_ne_zero (Nat.ne_of_gt (Nat.lt_of_lt_of_le (Nat.succ_pos _) hfuel))
    have hwritten : writeElement (.mk .comment [] text [] tail) ++ rest =
        '<' :: '!' :: '-' :: '-' :: (text.toList ++ ("-->".toList ++ (tail.toList ++ rest))) := by
      rw [← List.append_assoc, ← List.append_assoc]
      rfl
    rw [hwritten, readElement?_comment, htext, Option.bind_some, String.ofList_toList]
    rfl
  | void hvoid hname hattributes =>
    intro fuel rest
    refine readElement?_of_readContent? hname hattributes (fun fuel _ => ?_) fuel
    rw [readContent?, if_pos hvoid, endTag, if_pos hvoid]
    rfl
  | raw hvoid hraw hname hattributes htext =>
    intro fuel rest
    refine readElement?_of_readContent? hname hattributes (fun fuel _ => ?_) fuel
    rw [readContent?, if_neg (Bool.eq_false_iff.mp hvoid), if_pos hraw, writeElements_nil, List.nil_append, htext,
      Option.bind_some, readEndTag?_endTag hvoid, Option.bind_some, String.ofList_toList]
  | parent hvoid hraw hname hattributes htext hchildren htail ih =>
    intro fuel rest
    refine readElement?_of_readContent? hname hattributes (fun fuel hfuel => ?_) fuel
    rw [endTag_append hvoid, readContent?, if_neg (Bool.eq_false_iff.mp hvoid), if_neg (Bool.eq_false_iff.mp hraw),
      splitText_of_isText htext (atTag_writeElements hchildren _),
      readElements?_writeElements hchildren ih _ fuel hfuel, Option.bind_some, ← endTag_append hvoid,
      readEndTag?_endTag hvoid, Option.bind_some]

end Legible

/-! ### what is read is legible -/

section Read

variable {e : Element} {es : List Element} {name : String} {attributes : List (String × Option String)}
  {cs rest : List Char}

theorem endsTagName_of_isAlpha {c : Char} (h : c.isAlpha = true) : endsTagName c = false := by
  rw [Bool.eq_false_iff]
  intro hends
  simp only [endsTagName, isTagBlank, Bool.or_eq_true, beq_iff_eq] at hends
  rcases hends with ((((rfl | rfl) | rfl) | rfl) | rfl) | rfl <;> cases h

/-- Only names are read from what begins with a letter. -/
theorem isTagName_takeWhile (h : cs.head?.any Char.isAlpha = true) :
    IsTagName (String.ofList (cs.takeWhile (!endsTagName ·))) := by
  constructor
  · cases cs with
    | nil => cases h
    | cons c cs =>
      have hends : (!endsTagName c) = true := by rw [endsTagName_of_isAlpha (c := c) h]; rfl
      exact ⟨c, _, by rw [String.toList_ofList, List.takeWhile_cons_of_pos (p := (!endsTagName ·)) hends], h⟩
  · intro c hc
    rw [String.toList_ofList] at hc
    simpa using List.mem_takeWhile_imp (p := (!endsTagName ·)) hc

theorem readElement?_of_ne (fuel : Nat) {c : Char} (hc : c ≠ '<') (cs : List Char) :
    readElement? (fuel + 1) (c :: cs) = none := by
  rw [readElement?]
  · exact fun more h => hc (List.cons.inj h).1
  · exact fun more h => hc (List.cons.inj h).1

theorem legible_of_readContent? {fuel : Nat}
    (ih : ∀ cs es rest, readElements? fuel cs = some (es, rest) → ∀ e ∈ es, Legible e) (hname : IsTagName name)
    (hattributes : ∀ a ∈ attributes, IsAttribute a) (h : readContent? fuel name attributes cs = some (e, rest)) :
    Legible e ∧ e.tail = "" := by
  unfold readContent? at h
  split at h
  · next hvoid =>
    obtain ⟨rfl, _⟩ := Prod.mk.inj (Option.some.inj h)
    exact ⟨.void hvoid hname hattributes isText_empty, rfl⟩
  · next hvoid =>
    rw [Bool.not_eq_true] at hvoid
    split at h
    · next hraw =>
      obtain ⟨⟨content, after⟩, hsplit, h⟩ := Option.bind_eq_some_iff.mp h
      obtain ⟨more, hend, h⟩ := Option.bind_eq_some_iff.mp h
      obtain ⟨rfl, _⟩ := Prod.mk.inj (Option.some.inj h)
      refine ⟨.raw hvoid hraw hname hattributes ?_ isText_empty, rfl⟩
      rw [String.toList_ofList]
      exact isContent_of_splitContent? hvoid (readEndTag?_eq_some hend) hsplit
    · next hraw =>
      rw [Bool.not_eq_true] at hraw
      obtain ⟨⟨children, after⟩, hchildren, h⟩ := Option.bind_eq_some_iff.mp h
      obtain ⟨more, hend, h⟩ := Option.bind_eq_some_iff.mp h
      obtain ⟨rfl, _⟩ := Prod.mk.inj (Option.some.inj h)
      exact ⟨.parent hvoid hraw hname hattributes (isText_splitText cs) (ih _ _ _ hchildren) isText_empty, rfl⟩

theorem legible_of_readElement?_succ {fuel : Nat}
    (ih : ∀ cs es rest, readElements? fuel cs = some (es, rest) → ∀ e ∈ es, Legible e)
    (h : readElement? (fuel + 1) cs = some (e, rest)) : Legible e ∧ e.tail = "" := by
  cases cs with
  | nil => simp [readElement?] at h
  | cons c cs =>
    by_cases hc : c = '<'
    · subst hc
      by_cases hcomment : ∃ more, cs = '!' :: '-' :: '-' :: more
      · obtain ⟨more, rfl⟩ := hcomment
        rw [readElement?_comment] at h
        obtain ⟨⟨content, after⟩, hsplit, h⟩ := Option.bind_eq_some_iff.mp h
        obtain ⟨rfl, _⟩ := Prod.mk.inj (Option.some.inj h)
        refine ⟨.comment ?_ isText_empty, rfl⟩
        rw [String.toList_ofList]
        exact isComment_of_splitBefore? hsplit
      · rw [readElement?_tag fuel fun more hmore => hcomment ⟨more, hmore⟩] at h
        split at h
        · next hletter =>
          obtain ⟨⟨attributes, after⟩, hattributes, h⟩ := Option.bind_eq_some_iff.mp h
          exact legible_of_readContent? ih (isTagName_takeWhile hletter)
            (isAttribute_of_readAttributes? _ _ _ _ hattributes) h
        · cases h
    · rw [readElement?_of_ne fuel hc] at h
      cases h

theorem legible_of_readElements?_succ {fuel : Nat}
    (ihe : ∀ cs e rest, readElement? fuel cs = some (e, rest) → Legible e ∧ e.tail = "")
    (ihes : ∀ cs es rest, readElements? fuel cs = some (es, rest) → ∀ e ∈ es, Legible e)
    (h : readElements? (fuel + 1) cs = some (es, rest)) : ∀ e ∈ es, Legible e := by
  unfold readElements? at h
  split at h
  · obtain ⟨rfl, _⟩ := Prod.mk.inj (Option.some.inj h)
    exact List.forall_mem_nil _
  · obtain ⟨rfl, _⟩ := Prod.mk.inj (Option.some.inj h)
    exact List.forall_mem_nil _
  · obtain ⟨⟨e, after⟩, he, h⟩ := Option.bind_eq_some_iff.mp h
    obtain ⟨⟨more, end'⟩, hmore, h⟩ := Option.bind_eq_some_iff.mp h
    obtain ⟨rfl, _⟩ := Prod.mk.inj (Option.some.inj h)
    exact List.forall_mem_cons.mpr ⟨(ihe _ _ _ he).1.appendTail (isText_splitText after), ihes _ _ _ hmore⟩

/-- All that is read is legible, and an element is read without the text after it. -/
theorem legible_of_readElement? :
    ∀ fuel, (∀ cs e rest, readElement? fuel cs = some (e, rest) → Legible e ∧ e.tail = "") ∧
      ∀ cs es rest, readElements? fuel cs = some (es, rest) → ∀ e ∈ es, Legible e := by
  intro fuel
  -- both readers spend fuel whenever they call one another, so one induction on the fuel covers them
  induction fuel with
  | zero => exact ⟨fun _ _ _ h => by simp [readElement?] at h, fun _ _ _ h => by simp [readElements?] at h⟩
  | succ fuel ih =>
    exact ⟨fun _ _ _ => legible_of_readElement?_succ ih.2, fun _ _ _ => legible_of_readElements?_succ ih.1 ih.2⟩

end Read

/-! ### documents -/

section Documents

variable {text : String} {root : Element}

theorem skipDocumentType_write (h : Legible root) :
    skipDocumentType (documentType ++ writeElement root) = writeElement root := by
  obtain ⟨c, cs, hwritten, _⟩ := h.exists_writeElement_eq
  rw [hwritten]
  rfl

/-- A legible document reads back. -/
theorem read?_write (h : Legible root) (htail : root.tail = "") : read? (write root) = some root := by
  have hread := h.isRead (2 * (writeElement root).length + 2) [] (by omega)
  have hsame : withoutTail root = root := by
    have happend := appendTail_withoutTail root
    rwa [htail, Element.appendTail_empty] at happend
  rw [List.append_nil, htail, hsame] at hread
  rw [read?, write, String.toList_ofList, skipDocumentType_write h, hread]
  rfl

/-- All documents that are read are legible, and no text comes after them. -/
theorem legible_of_read? (h : read? text = some root) : Legible root ∧ root.tail = "" := by
  simp only [read?] at h
  split at h
  · next found rest hfound =>
    split at h
    · obtain rfl := Option.some.inj h
      exact (legible_of_readElement? _).1 _ _ _ hfound
    · cases h
  · cases h

end Documents

end LinkedData.Markup
