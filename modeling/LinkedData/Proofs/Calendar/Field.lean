import LinkedData.Calendar.Timestamp
import LinkedData.Proofs.Numeric.Notation

/-!
# Fields of digits

* `readField?_padded`: a number that is filled up with zeros is read from the field again;
* `append_lt_append_iff`: texts with beginnings of the same length are ordered by these, and then by what follows;
* `lt_iff_ofDigitChars_lt`: runs of equally many digits are ordered as the numbers that they write, and so are filled up
  numbers (`padded_lt_padded_iff`, `padded_append_lt_iff`).
-/

namespace LinkedData.Calendar

open Numeric

variable {ds es : List Char} {width m n : Nat}

/-! ### widths -/

theorem areDigits_padded (width n : Nat) : AreDigits (padded width n) := (areDigits_zeros _).append (areDigits_natText n)

theorem length_padded (hwidth : 0 < width) (hn : n < 10 ^ width) : (padded width n).length = width := by
  have hlength : (natText n).length ≤ width := (Nat.length_toDigits_le_iff (by decide) hwidth).mpr hn
  rw [padded, List.length_append, List.length_replicate, Nat.sub_add_cancel hlength]

theorem ofDigitChars_padded (width n : Nat) : Nat.ofDigitChars 10 (padded width n) 0 = n := by
  rw [padded, ofDigitChars_zeros_append, ofDigitChars_natText]

/-- A field is read again, whatever follows it. -/
theorem readField?_padded (hwidth : 0 < width) (hn : n < 10 ^ width) (rest : List Char) :
    readField? width (padded width n ++ rest) = some (n, rest) := by
  have hlength := length_padded hwidth hn
  have hall : (padded width n).all Char.isDigit = true := List.all_eq_true.mpr (areDigits_padded width n)
  rw [readField?, List.take_left' hlength, List.drop_left' hlength, ofDigitChars_padded]
  exact if_pos ⟨hlength, hall⟩

theorem expect?_self (c : Char) (cs : List Char) : expect? c (c :: cs) = some cs := if_pos rfl

/-! ### orders -/

theorem append_lt_append_iff {as bs cs ds : List Char} (hlength : as.length = bs.length) :
    as ++ cs < bs ++ ds ↔ as < bs ∨ as = bs ∧ cs < ds := by
  induction as generalizing bs with
  | nil =>
    obtain rfl := List.eq_nil_of_length_eq_zero hlength.symm
    simp
  | cons a as ih =>
    obtain ⟨b, bs, rfl⟩ := List.exists_cons_of_length_eq_add_one hlength.symm
    rw [List.cons_append, List.cons_append, List.cons_lt_cons_iff, List.cons_lt_cons_iff,
      ih (Nat.succ.inj hlength), List.cons.injEq]
    tauto

/-- Numbers in a positional notation are ordered by their first digits, and then by what is left. -/
theorem mul_add_lt_mul_add_iff {base high high' low low' : Nat} (hlow : low < base) (hlow' : low' < base) :
    high * base + low < high' * base + low' ↔ high < high' ∨ high = high' ∧ low < low' := by
  rcases Nat.lt_trichotomy high high' with hlt | rfl | hgt
  · have hle : (high + 1) * base ≤ high' * base := Nat.mul_le_mul_right base hlt
    rw [Nat.succ_mul] at hle
    exact iff_of_true (by omega) (Or.inl hlt)
  · simp
  · have hle : (high' + 1) * base ≤ high * base := Nat.mul_le_mul_right base hgt
    rw [Nat.succ_mul] at hle
    exact iff_of_false (by omega) (by omega)

theorem toNat_of_isDigit {c : Char} (hc : c.isDigit = true) : 48 ≤ c.toNat ∧ c.toNat ≤ 57 := by
  rw [Char.isDigit, Bool.and_eq_true, decide_eq_true_eq, decide_eq_true_eq] at hc
  exact ⟨UInt32.le_iff_toNat_le.mp hc.1, UInt32.le_iff_toNat_le.mp hc.2⟩

/-- The number that digits write after those of `n`. -/
theorem ofDigitChars_after (ds : List Char) (n : Nat) :
    Nat.ofDigitChars 10 ds n = n * 10 ^ ds.length + Nat.ofDigitChars 10 ds 0 := by
  induction ds generalizing n with
  | nil => simp [Nat.ofDigitChars]
  | cons c ds ih =>
    rw [Nat.ofDigitChars_cons, Nat.ofDigitChars_cons, ih, ih (10 * 0 + _), List.length_cons]
    ring

theorem ofDigitChars_lt (hds : AreDigits ds) : Nat.ofDigitChars 10 ds 0 < 10 ^ ds.length := by
  induction ds with
  | nil => decide
  | cons c ds ih =>
    obtain ⟨hc, hmore⟩ := List.forall_mem_cons.mp hds
    have hrest := ih hmore
    have hdigit : (c.toNat - '0'.toNat + 1) * 10 ^ ds.length ≤ 10 * 10 ^ ds.length :=
      Nat.mul_le_mul_right _ (by have := (toNat_of_isDigit hc).2; simp only [Char.reduceToNat]; omega)
    rw [Nat.succ_mul] at hdigit
    rw [Nat.ofDigitChars_cons, Nat.mul_zero, Nat.zero_add, ofDigitChars_after, List.length_cons, Nat.pow_succ,
      Nat.mul_comm _ 10]
    omega

theorem lt_iff_ofDigitChars_lt (hds : AreDigits ds) (hes : AreDigits es) (hlength : ds.length = es.length) :
    ds < es ↔ Nat.ofDigitChars 10 ds 0 < Nat.ofDigitChars 10 es 0 := by
  induction ds generalizing es with
  | nil =>
    obtain rfl := List.eq_nil_of_length_eq_zero hlength.symm
    simp
  | cons c ds ih =>
    obtain ⟨e, es, rfl⟩ := List.exists_cons_of_length_eq_add_one hlength.symm
    obtain ⟨hc, hds⟩ := List.forall_mem_cons.mp hds
    obtain ⟨he, hes⟩ := List.forall_mem_cons.mp hes
    have hrest : ds.length = es.length := Nat.succ.inj hlength
    have hlow := ofDigitChars_lt hds
    have hlow' := ofDigitChars_lt hes
    rw [← hrest] at hlow'
    have hc' := toNat_of_isDigit hc
    have he' := toNat_of_isDigit he
    have hfirst : c < e ↔ c.toNat - '0'.toNat < e.toNat - '0'.toNat := by
      rw [Char.lt_def, UInt32.lt_iff_toNat_lt, Char.toNat_val, Char.toNat_val]
      simp only [Char.reduceToNat]
      omega
    have hsame : c = e ↔ c.toNat - '0'.toNat = e.toNat - '0'.toNat := by
      rw [← Char.toNat_inj]
      simp only [Char.reduceToNat]
      omega
    rw [List.cons_lt_cons_iff, Nat.ofDigitChars_cons, Nat.ofDigitChars_cons, ofDigitChars_after ds,
      ofDigitChars_after es, ← hrest, mul_add_lt_mul_add_iff hlow hlow', ih hds hes hrest, hfirst, hsame]
    simp only [Nat.mul_zero, Nat.zero_add]

theorem padded_lt_padded_iff (hwidth : 0 < width) (hm : m < 10 ^ width) (hn : n < 10 ^ width) :
    padded width m < padded width n ↔ m < n := by
  rw [lt_iff_ofDigitChars_lt (areDigits_padded width m) (areDigits_padded width n)
    (by rw [length_padded hwidth hm, length_padded hwidth hn]), ofDigitChars_padded, ofDigitChars_padded]

theorem padded_inj : padded width m = padded width n ↔ m = n := by
  constructor
  · intro h
    rw [← ofDigitChars_padded width m, h, ofDigitChars_padded]
  · rintro rfl
    rfl

/-- Texts that begin with fields of the same width and a mark are ordered by these, and then by what follows. -/
theorem padded_append_lt_iff (hwidth : 0 < width) (hm : m < 10 ^ width) (hn : n < 10 ^ width) (c : Char)
    (cs ds : List Char) : padded width m ++ c :: cs < padded width n ++ c :: ds ↔ m < n ∨ m = n ∧ cs < ds := by
  have hlength : (padded width m).length = (padded width n).length := by
    rw [length_padded hwidth hm, length_padded hwidth hn]
  have hmark : ¬ c < c := Char.lt_irrefl c
  rw [append_lt_append_iff hlength, padded_lt_padded_iff hwidth hm hn, padded_inj, List.cons_lt_cons_iff]
  simp only [hmark, true_and, false_or]

end LinkedData.Calendar
