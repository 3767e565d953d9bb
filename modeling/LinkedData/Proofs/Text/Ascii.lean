/-!
# Facts about characters

* `forall_char_lt`: what holds of the characters with the first code points is checked one by one;
* `toLower_cases`: in lower case, a character is the same or a lower-case letter, and stays so (`toLower_toLower`);
* `toLower_ne`: no other character becomes, in lower case, a character that is not a lower-case letter;
* `takeWhile_run`, `dropWhile_run`: characters of some kind are read up to the first one of another kind.
-/

namespace LinkedData.Text

/-- What holds of all characters with code points below a bound holds of a character with such a code point. -/
theorem forall_char_lt {b : Nat} {P : Char → Prop} (h : ∀ n < b, P (Char.ofNat n)) {c : Char} (hc : c.toNat < b) :
    P c := by
  have hchar := h c.toNat hc
  rwa [Char.ofNat_toNat] at hchar

theorem isLower_toLower {c : Char} (h : c.val ≥ 'A'.val ∧ c.val ≤ 'Z'.val) : c.toLower.isLower = true := by
  have hc : c.toNat < 91 := Nat.lt_succ_of_le (UInt32.le_iff_toNat_le.mp h.2)
  have hall : ∀ n < 91, 65 ≤ (Char.ofNat n).toNat → (Char.ofNat n).toLower.isLower = true := by decide
  exact forall_char_lt (P := fun c => 65 ≤ c.toNat → c.toLower.isLower = true) hall hc
    (UInt32.le_iff_toNat_le.mp h.1)

theorem toLower_cases (c : Char) : c.toLower = c ∨ c.toLower.isLower = true := by
  by_cases hupper : c.val ≥ 'A'.val ∧ c.val ≤ 'Z'.val
  · exact Or.inr (isLower_toLower hupper)
  · exact Or.inl (dif_neg hupper)

theorem toLower_of_isLower {c : Char} (h : c.isLower = true) : c.toLower = c := by
  refine dif_neg fun hupper => ?_
  have hsmall : 'a'.val ≤ c.val := of_decide_eq_true (Bool.and_eq_true_iff.mp h).1
  exact absurd (UInt32.le_trans hsmall hupper.2) (by decide)

theorem toLower_toLower (c : Char) : c.toLower.toLower = c.toLower := by
  rcases toLower_cases c with hsame | hlower
  · rw [hsame, hsame]
  · exact toLower_of_isLower hlower

theorem toLower_ne {c d : Char} (hd : d.isLower = false) (h : c ≠ d) : c.toLower ≠ d := by
  rcases toLower_cases c with hsame | hlower
  · rwa [hsame]
  · rintro rfl
    rw [hlower] at hd
    cases hd

/-! ### runs of characters -/

section Runs

variable {p : Char → Bool} {cs rest : List Char}

theorem takeWhile_run (hcs : ∀ c ∈ cs, p c = true) (hrest : ∀ c ∈ rest.head?, p c = false) :
    (cs ++ rest).takeWhile p = cs := by
  rw [List.takeWhile_append_of_pos hcs]
  cases rest with
  | nil => rw [List.takeWhile_nil, List.append_nil]
  | cons c rest => rw [List.takeWhile_cons_of_neg (Bool.eq_false_iff.mp (hrest c rfl)), List.append_nil]

theorem dropWhile_run (hcs : ∀ c ∈ cs, p c = true) (hrest : ∀ c ∈ rest.head?, p c = false) :
    (cs ++ rest).dropWhile p = rest := by
  rw [List.dropWhile_append_of_pos hcs]
  cases rest with
  | nil => rfl
  | cons c rest => rw [List.dropWhile_cons_of_neg (Bool.eq_false_iff.mp (hrest c rfl))]

end Runs

end LinkedData.Text
