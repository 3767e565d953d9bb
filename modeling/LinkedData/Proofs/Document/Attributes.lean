import Mathlib.Data.List.TakeWhile
import LinkedData.Document.Markup
import LinkedData.Proofs.Text.Ascii

/-!
# Attributes read back

* `Markup.IsAttribute`: a name and, if there is one, a value that can be written so that they are read again;
* `Markup.readAttributes?_written`: such attributes read back;
* `Markup.isAttribute_of_readAttributes?`: no others are read.
-/

namespace LinkedData.Markup

/-- The name is one that is read up to its end, and the value has no quotes. -/
structure IsAttribute (a : String × Option String) : Prop where
  name : ∃ c cs, a.1.toList = c :: cs ∧ endsTagName c = false ∧ ∀ d ∈ cs, isAttributeChar d = true
  value : ∀ value ∈ a.2, '\x22' ∉ value.toList

section Attributes

variable {attributes : List (String × Option String)} {a : String × Option String} {fuel : Nat} {c : Char}
  {cs more rest : List Char}

theorem isTagBlank_of_endsTagName (h : endsTagName c = false) : isTagBlank c = false := by
  rw [endsTagName, Bool.or_eq_false_iff, Bool.or_eq_false_iff] at h
  exact h.1.1

/-! ### names -/

/-- How many characters the name at the beginning of a text has. -/
def nameLength (cs : List Char) : Nat := (cs.take 1).length + ((cs.drop 1).takeWhile isAttributeChar).length

/-- What follows a name: a value or none, and more attributes. -/
def readAfterName? (fuel : Nat) (name : String) (cs : List Char) :
    Option (List (String × Option String) × List Char) :=
  match cs with
  | '=' :: '\x22' :: rest =>
    match rest.dropWhile (· != '\x22') with
    | '\x22' :: after =>
      (readAttributes? fuel after).map fun (attributes, rest') =>
        ((name, some (String.ofList (rest.takeWhile (· != '\x22')))) :: attributes, rest')
    | _ => none
  | '=' :: _ => none
  | rest => (readAttributes? fuel rest).map fun (attributes, rest') => ((name, none) :: attributes, rest')

theorem readAttributes?_of_end (h : cs.dropWhile isTagBlank = '>' :: rest) :
    readAttributes? (fuel + 1) cs = some ([], rest) := by
  rw [readAttributes?, h]
  rfl

theorem readAttributes?_of_name (h : cs.dropWhile isTagBlank = more) (hmore : ∀ rest, more ≠ '>' :: rest) :
    readAttributes? (fuel + 1) cs =
      if more.head?.all endsTagName then none
      else readAfterName? fuel (String.ofList (more.take (nameLength more))) (more.drop (nameLength more)) := by
  rw [readAttributes?, h]
  split
  · next rest => exact absurd rfl (hmore rest)
  · rfl

/-! ### written attributes -/

/-- What follows the attributes that are left begins with a space or with the end of the tag. -/
theorem head?_flatMap_attributeText (attributes : List (String × Option String)) (rest : List Char) :
    ∀ d ∈ (attributes.flatMap attributeText ++ '>' :: rest).head?, isAttributeChar d = false ∧ d ≠ '=' := by
  intro d hd
  cases attributes with
  | nil =>
    obtain rfl := Option.some.inj hd
    decide
  | cons a attributes =>
    obtain ⟨name, value⟩ := a
    cases value with
    | none =>
      obtain rfl := Option.some.inj hd
      decide
    | some value =>
      obtain rfl := Option.some.inj hd
      decide

/-- An attribute is read, and then those behind it. -/
theorem readAttributes?_cons (ha : IsAttribute a) (hmore : ∀ d ∈ more.head?, isAttributeChar d = false ∧ d ≠ '=') :
    readAttributes? (fuel + 1) (attributeText a ++ more) =
      (readAttributes? fuel more).map fun (attributes, rest) => (a :: attributes, rest) := by
  obtain ⟨name, value⟩ := a
  obtain ⟨⟨c, cs, hname, hc, hcs⟩, hvalue⟩ := ha
  have hnamed : ∀ after, (∀ d ∈ after.head?, isAttributeChar d = false) →
      readAttributes? (fuel + 1) (' ' :: name.toList ++ after) = readAfterName? fuel name after := by
    intro after hafter
    have hblank : (' ' :: name.toList ++ after).dropWhile isTagBlank = c :: cs ++ after := by
      rw [hname, List.cons_append, List.dropWhile_cons_of_pos (by decide), List.cons_append,
        List.dropWhile_cons_of_neg (by simp [isTagBlank_of_endsTagName hc])]
    have hlength : nameLength (c :: cs ++ after) = name.toList.length := by
      rw [nameLength, List.cons_append, List.take_succ_cons, List.drop_succ_cons, List.drop_zero,
        Text.takeWhile_run hcs hafter, hname]
      simp [Nat.add_comm]
    have hend : ∀ rest, c :: cs ++ after ≠ '>' :: rest := by
      rintro rest h
      obtain rfl := (List.cons.inj h).1
      exact absurd hc (by decide)
    have hstart : Option.all endsTagName (c :: cs ++ after).head? = false := hc
    rw [readAttributes?_of_name hblank hend, hstart, if_neg Bool.false_ne_true, hlength, ← hname, List.take_left,
      List.drop_left, String.ofList_toList]
  cases value with
  | none =>
    rw [attributeText, hnamed more fun d hd => (hmore d hd).1, readAfterName?]
    · rintro rest rfl
      exact (hmore '=' rfl).2 rfl
    · rintro rest rfl
      exact (hmore '=' rfl).2 rfl
  | some value =>
    have hquote : ∀ d ∈ value.toList, (d != '\x22') = true := fun d hd =>
      bne_iff_ne.mpr fun h => hvalue value rfl (h ▸ hd)
    have hvalueText : attributeText (name, some value) ++ more =
        ' ' :: name.toList ++ ('=' :: '\x22' :: (value.toList ++ '\x22' :: more)) := by
      simp [attributeText]
    rw [hvalueText, hnamed _ (fun d hd => by obtain rfl := Option.some.inj hd; decide), readAfterName?,
      List.dropWhile_append_of_pos hquote, List.takeWhile_append_of_pos hquote,
      List.dropWhile_cons_of_neg (by decide), List.takeWhile_cons_of_neg (by decide), List.append_nil,
      String.ofList_toList]
    rfl

/-- Attributes read back up to the end of the tag. -/
theorem readAttributes?_written (h : ∀ a ∈ attributes, IsAttribute a) (rest : List Char) :
    ∀ fuel, attributes.length < fuel →
      readAttributes? fuel (attributes.flatMap attributeText ++ '>' :: rest) = some (attributes, rest) := by
  induction attributes with
  | nil =>
    intro fuel hfuel
    obtain ⟨fuel, rfl⟩ := Nat.exists_eq_succ_of_ne_zero (Nat.ne_of_gt hfuel)
    rfl
  | cons a attributes ih =>
    intro fuel hfuel
    obtain ⟨ha, hmore⟩ := List.forall_mem_cons.mp h
    obtain ⟨fuel, rfl⟩ := Nat.exists_eq_succ_of_ne_zero (Nat.ne_of_gt (Nat.zero_lt_of_lt hfuel))
    rw [List.flatMap_cons, List.append_assoc, readAttributes?_cons ha (head?_flatMap_attributeText attributes rest),
      ih hmore fuel (Nat.lt_of_succ_lt_succ hfuel)]
    rfl

/-! ### attributes that are read -/

/-- After a name, a value without quotes is read or none, and then more attributes. -/
theorem readAfterName?_eq_some {name : String} (h : readAfterName? fuel name cs = some (attributes, rest)) :
    ∃ value more attributes', attributes = (name, value) :: attributes' ∧
      (∀ v ∈ value, '\x22' ∉ String.toList v) ∧ readAttributes? fuel more = some (attributes', rest) := by
  unfold readAfterName? at h
  split at h
  · next written =>
    split at h
    · next after hafter =>
      obtain ⟨⟨attributes', rest'⟩, hmore, heq⟩ := Option.map_eq_some_iff.mp h
      obtain ⟨rfl, rfl⟩ := Prod.mk.inj heq
      refine ⟨_, after, attributes', rfl, fun v hv hquote => ?_, hmore⟩
      obtain rfl := Option.some.inj hv
      rw [String.toList_ofList] at hquote
      have hne : ('\x22' != '\x22') = true := List.mem_takeWhile_imp (p := (· != '\x22')) hquote
      exact absurd hne (by decide)
    · cases h
  · cases h
  · obtain ⟨⟨attributes', rest'⟩, hmore, heq⟩ := Option.map_eq_some_iff.mp h
    obtain ⟨rfl, rfl⟩ := Prod.mk.inj heq
    refine ⟨none, _, attributes', rfl, fun v hv => ?_, hmore⟩
    cases hv

/-- All attributes that are read can be written. -/
theorem isAttribute_of_readAttributes? :
    ∀ fuel cs attributes rest, readAttributes? fuel cs = some (attributes, rest) → ∀ a ∈ attributes, IsAttribute a := by
  intro fuel
  induction fuel with
  | zero => exact fun _ _ _ h => nomatch h
  | succ fuel ih =>
    intro cs attributes rest h
    by_cases hend : ∃ more, cs.dropWhile isTagBlank = '>' :: more
    · obtain ⟨more, hmore⟩ := hend
      rw [readAttributes?_of_end hmore] at h
      obtain ⟨rfl, _⟩ := Prod.mk.inj (Option.some.inj h)
      exact List.forall_mem_nil _
    · rw [readAttributes?_of_name rfl fun more hmore => hend ⟨more, hmore⟩] at h
      generalize cs.dropWhile isTagBlank = named at h
      cases named with
      | nil => cases h
      | cons c cs =>
        split at h
        · cases h
        · next hstart =>
          obtain ⟨value, more, attributes', rfl, hvalue, hattributes⟩ := readAfterName?_eq_some h
          refine List.forall_mem_cons.mpr ⟨⟨⟨c, cs.takeWhile isAttributeChar, ?_, by simpa using hstart, ?_⟩, hvalue⟩,
            ih more attributes' rest hattributes⟩
          · have hlength : nameLength (c :: cs) = (cs.takeWhile isAttributeChar).length + 1 := Nat.add_comm 1 _
            rw [String.toList_ofList, hlength, List.take_succ_cons,
              ← List.prefix_iff_eq_take.mp (List.takeWhile_prefix isAttributeChar)]
          · exact fun d hd => List.mem_takeWhile_imp hd

end Attributes

end LinkedData.Markup
