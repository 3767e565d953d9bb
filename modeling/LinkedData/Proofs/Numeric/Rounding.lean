import Mathlib.Data.Nat.Log
import Mathlib.Tactic.Ring
import LinkedData.Numeric.Binary64

/-!
# Rounding of fractions

* `Binary64.rankOfRatio_mul`: rounding depends on the fraction only, not on its terms;
* `Binary64.rankOfRatio_units`: the magnitude of a number is rounded to that number;
* `Binary64.rankOfRatio_mono`: the greater of two fractions is not rounded to the lesser number;
* `Binary64.units_strictMono`: the magnitudes of numbers increase with their ranks.
-/

namespace LinkedData.Numeric

namespace Binary64

theorem two_pow_pos (k : Nat) : 0 < Nat.pow 2 k := Nat.pow_pos Nat.two_pos

theorem binade_pos : 0 < binade := two_pow_pos 52

theorem two_pow_add_binade (k : Nat) : 2 ^ (52 + k) = binade * Nat.pow 2 k := by
  rw [Nat.pow_add]
  rfl

/-! ### fractions -/

theorem roundHalfEven_mul {k : Nat} (hk : 0 < k) (n d : Nat) :
    roundHalfEven (k * n) (k * d) = roundHalfEven n d := by
  have hlow : 2 * (k * (n % d)) < k * d ↔ 2 * (n % d) < d := by
    rw [Nat.mul_left_comm, Nat.mul_lt_mul_left hk]
  have hhigh : k * d < 2 * (k * (n % d)) ↔ d < 2 * (n % d) := by
    rw [Nat.mul_left_comm 2, Nat.mul_lt_mul_left hk]
  simp only [roundHalfEven, Nat.mul_div_mul_left n d hk, Nat.mul_mod_mul_left, hlow, hhigh]

theorem roundHalfEven_exact {d : Nat} (hd : 0 < d) (n : Nat) : roundHalfEven (n * d) d = n := by
  simp only [roundHalfEven, Nat.mul_mod_left, Nat.mul_zero, if_pos hd, Nat.mul_div_cancel n hd]

theorem rankOfRatio_eq (n d : Nat) :
    rankOfRatio n d =
      (Nat.log2 (n / d) - 52) * binade + roundHalfEven n (d * Nat.pow 2 (Nat.log2 (n / d) - 52)) := rfl

theorem rankOfRatio_mul {k : Nat} (hk : 0 < k) (n d : Nat) : rankOfRatio (k * n) (k * d) = rankOfRatio n d := by
  simp only [rankOfRatio_eq, Nat.mul_div_mul_left n d hk, Nat.mul_assoc, roundHalfEven_mul hk]

/-- All numbers of a binade have as many binary digits. -/
theorem log2_units {m : Nat} (hm : m < binade) (k : Nat) : Nat.log2 ((binade + m) * Nat.pow 2 k) = 52 + k := by
  have hne : (binade + m) * Nat.pow 2 k ≠ 0 :=
    Nat.pos_iff_ne_zero.mp (Nat.mul_pos (Nat.add_pos_left binade_pos m) (two_pow_pos k))
  rw [Nat.log2_eq_iff hne]
  have hhigh : 2 ^ (52 + k + 1) = 2 * binade * Nat.pow 2 k := by rw [Nat.pow_succ, two_pow_add_binade]; ring
  rw [two_pow_add_binade, hhigh]
  exact ⟨Nat.mul_le_mul_right _ (Nat.le_add_right _ _), Nat.mul_lt_mul_of_pos_right (by omega) (two_pow_pos k)⟩

theorem rankOfRatio_units (rank : Nat) : rankOfRatio (units rank) 1 = rank := by
  have hsplit := Nat.div_add_mod rank binade
  have hmod := Nat.mod_lt rank binade_pos
  rw [rankOfRatio_eq, units]
  by_cases hzero : rank / binade = 0
  · rw [if_pos hzero, Nat.div_one]
    have hrank : rank % binade = rank := by rw [hzero] at hsplit; omega
    have hlog : Nat.log2 rank - 52 = 0 := by
      by_cases h0 : rank = 0
      · rw [h0]; rfl
      · have : Nat.log2 rank < 52 := (Nat.log2_lt h0).mpr (hrank ▸ hmod)
        omega
    have hround := roundHalfEven_exact Nat.one_pos rank
    rw [Nat.mul_one] at hround
    rw [hrank, hlog, Nat.zero_mul, Nat.zero_add]
    exact hround
  · rw [if_neg hzero, Nat.div_one, log2_units hmod]
    have hsub : 52 + (rank / binade - 1) - 52 = rank / binade - 1 := by omega
    rw [hsub, Nat.one_mul, roundHalfEven_exact (two_pow_pos (rank / binade - 1))]
    obtain ⟨e, he⟩ := Nat.exists_eq_succ_of_ne_zero hzero
    have hmul : binade * e.succ = e * binade + binade := by rw [Nat.mul_succ, Nat.mul_comm]
    rw [he, hmul] at hsplit
    rw [he, Nat.succ_sub_one, ← Nat.add_assoc]
    exact hsplit

/-! ### order -/

theorem roundHalfEven_mono {n n' : Nat} (h : n ≤ n') (d : Nat) : roundHalfEven n d ≤ roundHalfEven n' d := by
  have hquotient : n / d ≤ n' / d := Nat.div_le_div_right h
  rcases Nat.lt_or_eq_of_le hquotient with hlt | heq
  · simp only [roundHalfEven]
    split_ifs <;> omega
  · -- equal quotients: the remainders are in order
    have hn := Nat.div_add_mod n d
    have hn' := Nat.div_add_mod n' d
    rw [heq] at hn
    simp only [roundHalfEven, heq]
    split_ifs <;> omega

theorem roundHalfEven_le {n k d : Nat} (hd : 0 < d) (h : n ≤ k * d) : roundHalfEven n d ≤ k :=
  (roundHalfEven_mono h d).trans_eq (roundHalfEven_exact hd k)

theorem le_roundHalfEven {n k d : Nat} (hd : 0 < d) (h : k * d ≤ n) : k ≤ roundHalfEven n d :=
  (roundHalfEven_exact hd k).symm.trans_le (roundHalfEven_mono h d)

theorem log2_le_log2 {n n' : Nat} (h : n ≤ n') : Nat.log2 n ≤ Nat.log2 n' := by
  rw [Nat.log2_eq_log_two, Nat.log2_eq_log_two]
  exact Nat.log_mono_right h

/-- The fractions of a binade end where the next one begins. -/
theorem lt_of_log2 {n d s : Nat} (hd : 0 < d) (hs : Nat.log2 (n / d) - 52 = s) :
    n < binade * 2 * (d * Nat.pow 2 s) := by
  have hlog : n / d < 2 ^ (52 + s + 1) :=
    Nat.lt_log2_self.trans_le (Nat.pow_le_pow_right Nat.two_pos (by omega))
  have hpow : 2 ^ (52 + s + 1) * d = binade * 2 * (d * Nat.pow 2 s) := by
    rw [Nat.pow_succ, two_pow_add_binade]
    ring
  rw [← hpow]
  exact (Nat.div_lt_iff_lt_mul hd).mp hlog

theorem le_of_log2 {n d s : Nat} (hd : 0 < d) (hs : Nat.log2 (n / d) - 52 = s) (hpos : 0 < s) :
    binade * (d * Nat.pow 2 s) ≤ n := by
  have hne : n / d ≠ 0 := by
    intro hzero
    rw [hzero, Nat.log2_zero] at hs
    omega
  have hlog : 2 ^ (52 + s) ≤ n / d :=
    (Nat.pow_le_pow_right Nat.two_pos (by omega)).trans (Nat.log2_self_le hne)
  have hpow : 2 ^ (52 + s) * d = binade * (d * Nat.pow 2 s) := by
    rw [two_pow_add_binade]
    ring
  rw [← hpow]
  exact (Nat.le_div_iff_mul_le hd).mp hlog

/-- **The greater of two fractions is not rounded to the lesser number.** -/
theorem rankOfRatio_mono {n n' d : Nat} (hd : 0 < d) (h : n ≤ n') : rankOfRatio n d ≤ rankOfRatio n' d := by
  have hlog := log2_le_log2 (Nat.div_le_div_right (c := d) h)
  rw [rankOfRatio_eq, rankOfRatio_eq]
  generalize hs : Nat.log2 (n / d) - 52 = s
  generalize hs' : Nat.log2 (n' / d) - 52 = s'
  rcases Nat.lt_or_eq_of_le (show s ≤ s' by omega) with hlt | rfl
  · -- in different binades both are rounded within their own one
    have hround := roundHalfEven_le (Nat.mul_pos hd (two_pow_pos s)) (lt_of_log2 hd hs).le
    have hround' := le_roundHalfEven (Nat.mul_pos hd (two_pow_pos s')) (le_of_log2 hd hs' (by omega))
    calc s * binade + roundHalfEven n (d * Nat.pow 2 s)
        ≤ s * binade + binade * 2 := Nat.add_le_add_left hround _
      _ = (s + 1) * binade + binade := by ring
      _ ≤ s' * binade + binade := Nat.add_le_add_right (Nat.mul_le_mul_right _ hlt) _
      _ ≤ s' * binade + roundHalfEven n' (d * Nat.pow 2 s') := Nat.add_le_add_left hround' _
  · exact Nat.add_le_add_left (roundHalfEven_mono h _) _

theorem units_strictMono : StrictMono units := by
  intro r r' hlt
  by_contra hle
  have hrank := rankOfRatio_mono Nat.one_pos (Nat.not_lt.mp hle)
  rw [rankOfRatio_units, rankOfRatio_units] at hrank
  exact Nat.not_le.mpr hlt hrank

end Binary64

end LinkedData.Numeric
