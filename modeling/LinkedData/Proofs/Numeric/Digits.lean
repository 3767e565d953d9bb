import Mathlib.Algebra.Order.Field.Power
import Mathlib.Data.Rat.Cast.Order
import Mathlib.Tactic.FieldSimp
import Mathlib.Tactic.Linarith
import Mathlib.Tactic.Positivity
import LinkedData.Numeric.Shortest
import LinkedData.Proofs.Numeric.Rounding

/-!
# Rounding of decimals

* `Binary64.magnitude`: the number that a rank is;
* `Digits.value`: the number that a decimal is, and `Digits.rank`, the rank nearest to it;
* `Digits.rank_mono`, `Digits.rank_of_value`: decimals in order are rounded in order, and the number of a rank to that
  rank;
* `Binary64.ofDecimal_eq_ofRank`: the decimals whose powers of ten are not computed are rounded like all others;
* `Binary64.ofDecimal_mul_pow`: trailing zeros of a decimal do not matter;
* `Binary64.toBinary64_shortest`: the digits that a number is written with read back as its magnitude.
-/

namespace LinkedData.Numeric

/-! ### numbers of ranks -/

namespace Binary64

theorem unitsPerOne_pos : 0 < unitsPerOne := by decide +kernel

theorem cast_unitsPerOne_pos : (0 : ℚ) < unitsPerOne := Nat.cast_pos.mpr unitsPerOne_pos

/-- The number that a rank is. -/
def magnitude (rank : Nat) : ℚ := units rank / unitsPerOne

theorem magnitude_mul_unitsPerOne (rank : Nat) : magnitude rank * unitsPerOne = units rank :=
  div_mul_cancel₀ _ cast_unitsPerOne_pos.ne'

theorem magnitude_nonneg (rank : Nat) : 0 ≤ magnitude rank := div_nonneg (Nat.cast_nonneg _) cast_unitsPerOne_pos.le

theorem magnitude_zero : magnitude 0 = 0 := by
  have hunits : units 0 = 0 := by decide +kernel
  rw [magnitude, hunits, Nat.cast_zero, zero_div]

theorem magnitude_strictMono : StrictMono magnitude :=
  fun _ _ hlt => div_lt_div_of_pos_right (Nat.cast_lt.mpr (units_strictMono hlt)) cast_unitsPerOne_pos

/-! ### decimals -/

/-- The rank nearest to a decimal. -/
def decimalRank (coefficient : Nat) : Int → Nat
  | .ofNat e => rankOfRatio (coefficient * Nat.pow 10 e * unitsPerOne) 1
  | .negSucc e => rankOfRatio (coefficient * unitsPerOne) (Nat.pow 10 (e + 1))

theorem ofDecimal_eq (negative : Bool) (coefficient : Nat) (exponent : Int) :
    ofDecimal negative coefficient exponent =
      if coefficient = 0 ∨ digitCount coefficient + exponent < -400 then ofRank negative 0
      else if 310 < digitCount coefficient + exponent then .infinity negative
      else ofRank negative (decimalRank coefficient exponent) := by
  cases exponent <;> rfl

theorem digitCount_le_iff {n k : Nat} : digitCount n ≤ k ↔ n < 10 ^ k := by
  unfold digitCount
  split
  · next hzero =>
    rw [hzero]
    exact iff_of_true (Nat.zero_le k) (Nat.pow_pos (by decide))
  · next hne =>
    rcases Nat.eq_zero_or_pos k with rfl | hk
    · have hlength : 0 < (Nat.toDigits 10 n).length := List.length_pos_iff.mpr Nat.toDigits_ne_nil
      rw [Nat.pow_zero]
      omega
    · exact Nat.length_toDigits_le_iff (by decide) hk

end Binary64

namespace Digits

open Binary64

/-- The number that a decimal is. -/
def value (d : Digits) : ℚ := d.coefficient * 10 ^ d.exponent

/-- The position of the point, counted from the first digit. -/
def point (d : Digits) : Int := digitCount d.coefficient + d.exponent

theorem value_one (k : Int) : (Digits.mk 1 k).value = 10 ^ k := by rw [value, Nat.cast_one, one_mul]

/-- The rank nearest to the decimal. -/
def rank (d : Digits) : Nat := decimalRank d.coefficient d.exponent

/-- How great a decimal is can be told from the position of its point. -/
theorem value_lt_zpow_iff {d : Digits} (hd : d.coefficient ≠ 0) (k : Int) : d.value < 10 ^ k ↔ d.point ≤ k := by
  have hscale : d.value < 10 ^ k ↔ (d.coefficient : ℚ) < 10 ^ (k - d.exponent) := by
    rw [value, zpow_sub₀ (by norm_num : (10 : ℚ) ≠ 0), lt_div_iff₀ (by positivity)]
  rw [hscale, point]
  cases hj : k - d.exponent with
  | ofNat j =>
    have hcast : (d.coefficient : ℚ) < 10 ^ (Int.ofNat j) ↔ d.coefficient < 10 ^ j := by
      rw [Int.ofNat_eq_natCast, zpow_natCast]
      exact_mod_cast Iff.rfl
    rw [hcast, ← digitCount_le_iff]
    rw [Int.ofNat_eq_natCast] at hj
    omega
  | negSucc j =>
    -- the point is so far to the left that no first digit could stand there
    have hone : (1 : ℚ) ≤ d.coefficient := by exact_mod_cast Nat.one_le_iff_ne_zero.mpr hd
    have hpow : (10 : ℚ) ^ (Int.negSucc j) ≤ 1 := zpow_le_one_of_nonpos₀ (by norm_num) (Int.negSucc_lt_zero j).le
    exact iff_of_false (not_lt.mpr (hpow.trans hone)) (by omega)

variable {d d' : Digits}

/-- A decimal is rounded as a fraction of units. -/
theorem exists_ratio (d : Digits) :
    ∃ n m : Nat, 0 < m ∧ d.rank = rankOfRatio n m ∧ (n : ℚ) = d.value * unitsPerOne * m := by
  obtain ⟨coefficient, exponent⟩ := d
  match exponent with
  | .ofNat e =>
    refine ⟨coefficient * Nat.pow 10 e * unitsPerOne, 1, Nat.one_pos, rfl, ?_⟩
    rw [value, Int.ofNat_eq_natCast, zpow_natCast, Nat.pow_eq]
    generalize unitsPerOne = u
    push_cast
    ring
  | .negSucc e =>
    refine ⟨coefficient * unitsPerOne, Nat.pow 10 (e + 1), Nat.pow_pos (by decide), rfl, ?_⟩
    rw [value, zpow_negSucc, Nat.pow_eq]
    generalize unitsPerOne = u
    push_cast
    field_simp

/-- **Decimals in order are rounded in order.** -/
theorem rank_mono (h : d.value ≤ d'.value) : d.rank ≤ d'.rank := by
  obtain ⟨n, m, hm, hrank, hn⟩ := exists_ratio d
  obtain ⟨n', m', hm', hrank', hn'⟩ := exists_ratio d'
  have hcross : m' * n ≤ m * n' := by
    have hunits : (0 : ℚ) ≤ unitsPerOne * (m * m') :=
      mul_nonneg cast_unitsPerOne_pos.le (by positivity)
    have hmul := mul_le_mul_of_nonneg_right h hunits
    have hcast : ((m' * n : Nat) : ℚ) ≤ (m * n' : Nat) := by
      push_cast
      rw [hn, hn']
      linarith
    exact Nat.cast_le.mp hcast
  rw [hrank, hrank', ← rankOfRatio_mul hm', ← rankOfRatio_mul hm n', Nat.mul_comm m m']
  exact rankOfRatio_mono (Nat.mul_pos hm' hm) hcross

theorem rank_congr (h : d.value = d'.value) : d.rank = d'.rank := Nat.le_antisymm (rank_mono h.le) (rank_mono h.ge)

/-- The number of a rank is rounded to that rank. -/
theorem rank_of_value {r : Nat} (h : d.value = magnitude r) : d.rank = r := by
  obtain ⟨n, m, hm, hrank, hn⟩ := exists_ratio d
  rw [h, magnitude_mul_unitsPerOne, mul_comm] at hn
  have hunits : n = m * units r := by exact_mod_cast hn
  have hexact := rankOfRatio_mul hm (units r) 1
  rw [Nat.mul_one, rankOfRatio_units] at hexact
  rw [hrank, hunits, hexact]

theorem rank_eq_zero (h : d.coefficient = 0) : d.rank = 0 := by
  refine rank_of_value ?_
  rw [value, h, Nat.cast_zero, zero_mul, magnitude_zero]

/-- Trailing zeros do not matter. -/
theorem value_mul_pow (coefficient : Nat) (exponent : Int) (k : Nat) :
    (Digits.mk (coefficient * 10 ^ k) exponent).value = (Digits.mk coefficient (exponent + k)).value := by
  rw [value, value, zpow_add₀ (by norm_num), zpow_natCast]
  push_cast
  ring

theorem value_stripZeros (fuel : Nat) (d : Digits) : (stripZeros fuel d).value = d.value := by
  induction fuel generalizing d with
  | zero => rfl
  | succ fuel ih =>
    rw [stripZeros]
    split
    · next h =>
      have hten : d.coefficient / 10 * 10 ^ 1 = d.coefficient := by omega
      rw [ih, ← Nat.cast_one, ← value_mul_pow, hten]
    · rfl

theorem value_normalize (d : Digits) : d.normalize.value = d.value := by
  rw [normalize]
  split
  · next h => rw [value, value, h, Nat.cast_zero, zero_mul, zero_mul]
  · exact value_stripZeros _ d

end Digits

/-! ### numbers nearest to decimals -/

namespace Binary64

variable {d d' : Digits}

/-- **The decimals whose powers of ten are not computed are rounded like all others.** -/
theorem ofDecimal_eq_ofRank (negative : Bool) (d : Digits) :
    ofDecimal negative d.coefficient d.exponent = ofRank negative d.rank := by
  rw [ofDecimal_eq]
  by_cases hzero : d.coefficient = 0
  · rw [if_pos (Or.inl hzero), Digits.rank_eq_zero hzero]
  · have hpoint := Digits.value_lt_zpow_iff hzero
    rw [Digits.point] at hpoint
    simp only [hzero, false_or]
    split_ifs with hlow hhigh
    · have hvalue : d.value ≤ (Digits.mk 1 (-400)).value := by
        rw [Digits.value_one]
        exact ((hpoint (-400)).mpr hlow.le).le
      have hleast : (Digits.mk 1 (-400)).rank = 0 := by decide +kernel
      have hrank := Digits.rank_mono hvalue
      rw [hleast] at hrank
      rw [Nat.le_zero.mp hrank]
    · have hvalue : (Digits.mk 1 310).value ≤ d.value := by
        rw [Digits.value_one, ← not_lt, hpoint]
        omega
      have hgreatest : rankBound ≤ (Digits.mk 1 310).rank := by decide +kernel
      have hrank := hgreatest.trans (Digits.rank_mono hvalue)
      rw [ofRank, dif_neg (Nat.not_lt.mpr hrank)]
    · rfl

theorem ofDecimal_congr (negative : Bool) (h : d.value = d'.value) :
    ofDecimal negative d.coefficient d.exponent = ofDecimal negative d'.coefficient d'.exponent := by
  rw [ofDecimal_eq_ofRank, ofDecimal_eq_ofRank, Digits.rank_congr h]

theorem ofDecimal_mul_pow (negative : Bool) (coefficient : Nat) (exponent : Int) (k : Nat) :
    ofDecimal negative (coefficient * 10 ^ k) exponent = ofDecimal negative coefficient (exponent + k) :=
  ofDecimal_congr negative (Digits.value_mul_pow coefficient exponent k)

theorem eq_of_ofRank_eq {n r : Nat} (hr : r < rankBound) (h : ofRank false n = ofRank false r) : n = r := by
  rw [ofRank, ofRank, dif_pos hr] at h
  split at h
  · exact congrArg Fin.val (Binary64.finite.inj h).2
  · cases h

/-- The sign of a decimal is that of the number. -/
theorem ofDecimal_sign {coefficient : Nat} {exponent : Int} {rank : Fin rankBound} (negative : Bool)
    (h : ofDecimal false coefficient exponent = .finite false rank) :
    ofDecimal negative coefficient exponent = .finite negative rank := by
  have hdecimal := fun sign => ofDecimal_eq_ofRank sign ⟨coefficient, exponent⟩
  have hrank : ∀ sign, ofRank sign rank = .finite sign rank := fun sign => dif_pos rank.isLt
  rw [hdecimal false, ← hrank false] at h
  rw [hdecimal negative, eq_of_ofRank_eq rank.isLt h, hrank]

/-! ### written digits -/

/-- All digits of a number are what it is. -/
theorem value_exactDigits (r : Nat) : (exactDigits r).value = magnitude r := by
  have hexact : ∀ k, unitsPerOne = Nat.pow 2 (k + 1) →
      (Digits.mk (units r * Nat.pow 5 (k + 1)) (.negSucc k)).value = magnitude r := by
    intro k hk
    have hten : (10 : ℚ) ^ (k + 1) = 5 ^ (k + 1) * 2 ^ (k + 1) := by rw [← mul_pow]; norm_num
    rw [Digits.value, magnitude, hk, zpow_negSucc, hten, Nat.pow_eq, Nat.pow_eq]
    push_cast
    field_simp
  exact hexact 1073 rfl

/-- A decimal that is no greater than the number of a rank is not rounded to a greater one. -/
theorem rank_le {r : Nat} (h : d.value ≤ magnitude r) : d.rank ≤ r := by
  have hexact := Digits.rank_of_value (value_exactDigits r)
  rw [← value_exactDigits r] at h
  exact (Digits.rank_mono h).trans_eq hexact

theorem toBinary64_exactDigits (r : Nat) : (exactDigits r).toBinary64 = ofRank false r := by
  rw [Digits.toBinary64, ofDecimal_eq_ofRank, Digits.rank_of_value (value_exactDigits r)]

/-- The digits that a number is written with read back as its magnitude. -/
theorem toBinary64_shortest (r : Nat) : (shortest r).toBinary64 = ofRank false r := by
  rw [shortest, Digits.toBinary64, ofDecimal_congr false (Digits.value_normalize _)]
  cases hfound : (List.range 17).findSome? fun k => onGrid? r (k + 1) with
  | none => exact toBinary64_exactDigits r
  | some d =>
    obtain ⟨k, _, hk⟩ := List.exists_of_findSome?_eq_some hfound
    exact toBinary64_of_onGrid? hk

theorem rank_shortest {r : Nat} (hr : r < rankBound) : (shortest r).rank = r := by
  have hback := toBinary64_shortest r
  rw [Digits.toBinary64, ofDecimal_eq_ofRank] at hback
  exact eq_of_ofRank_eq hr hback

end Binary64

end LinkedData.Numeric
