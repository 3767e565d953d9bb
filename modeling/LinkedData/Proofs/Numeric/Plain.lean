import Mathlib.Data.List.TakeWhile
import LinkedData.Proofs.Numeric.Notation

/-!
# Numbers that are written without an exponent

* `IsPlainDecimal`: digits with or without a minus sign, and perhaps a point with more digits behind it;
* `decimalValue?`: the number that a decimal literal denotes;
* `isPlainDecimal_intText`, `decimalValue?_intText`: integers are written so, and are denoted by their texts;
* `Binary64.value?`: the number that a finite binary64 number is, and `Binary64.integer?_eq`: whether it is an integer;
* `Binary64.isPlainDecimal_text_iff`: of the binary64 numbers with a fraction those from 0.0001 on are written so.
-/

namespace LinkedData.Numeric

/-! ### plain texts -/

/-- One digit or more, and perhaps a point with one digit or more behind it. -/
inductive IsPlainMagnitude : List Char → Prop
  | whole {ds : List Char} (hne : ds ≠ []) (hds : AreDigits ds) : IsPlainMagnitude ds
  | pointed {ds es : List Char} (hds_ne : ds ≠ []) (hds : AreDigits ds) (hes_ne : es ≠ []) (hes : AreDigits es) :
      IsPlainMagnitude (ds ++ '.' :: es)

/-- The same, possibly after a minus sign. -/
inductive IsPlainDecimal : List Char → Prop
  | unsigned {cs : List Char} (h : IsPlainMagnitude cs) : IsPlainDecimal cs
  | negative {cs : List Char} (h : IsPlainMagnitude cs) : IsPlainDecimal ('-' :: cs)

theorem IsPlainMagnitude.signed {cs : List Char} (h : IsPlainMagnitude cs) (negative : Bool) :
    IsPlainDecimal (if negative then '-' :: cs else cs) := by
  cases negative with
  | true => exact .negative h
  | false => exact .unsigned h

theorem AreDigits.not_mem {ds : List Char} (hds : AreDigits ds) {c : Char} (hc : c.isDigit = false) : c ∉ ds := by
  intro hmem
  rw [hds c hmem] at hc
  cases hc

theorem IsPlainMagnitude.no_exponent {cs : List Char} (h : IsPlainMagnitude cs) : 'e' ∉ cs := by
  cases h with
  | whole _ hds => exact hds.not_mem rfl
  | pointed _ hds _ hes =>
    have hpoint : 'e' ≠ '.' := by decide
    have hexponent : Char.isDigit 'e' = false := rfl
    simp only [List.mem_append, List.mem_cons, hpoint, hds.not_mem hexponent, hes.not_mem hexponent, or_self,
      not_false_eq_true]

theorem IsPlainDecimal.no_exponent {cs : List Char} (h : IsPlainDecimal cs) : 'e' ∉ cs := by
  cases h with
  | unsigned h => exact h.no_exponent
  | negative h =>
    have hminus : 'e' ≠ '-' := by decide
    simp only [List.mem_cons, hminus, h.no_exponent, or_self, not_false_eq_true]

/-! ### integers -/

theorem isPlainDecimal_intText (n : Int) : IsPlainDecimal (intText n) := by
  have hplain := IsPlainMagnitude.whole (natText_ne_nil n.natAbs) (areDigits_natText n.natAbs)
  unfold intText
  split
  · exact .negative hplain
  · exact .unsigned hplain

/-- The number that a decimal literal denotes. -/
def decimalValue? (cs : List Char) : Option ℚ :=
  (readDecimal? cs).map fun (negative, d) => if negative then -d.value else d.value

theorem readDecimal?_digits {ds : List Char} (hne : ds ≠ []) (hds : AreDigits ds) (negative : Bool) :
    readDecimal? (if negative then '-' :: ds else ds) = some (negative, ⟨Nat.ofDigitChars 10 ds 0, 0⟩) := by
  have hsign : readSign (if negative then '-' :: ds else ds) = (negative, ds) := by
    cases negative with
    | true => rfl
    | false =>
      cases ds with
      | nil => exact absurd rfl hne
      | cons c ds => exact readSign_digit (hds c List.mem_cons_self) ds
  have htake : ds.takeWhile Char.isDigit = ds := List.takeWhile_eq_self_iff.mpr hds
  have hdrop : ds.dropWhile Char.isDigit = [] := List.dropWhile_eq_nil_iff.mpr hds
  unfold readDecimal?
  simp only [hsign, htake, hdrop, List.append_nil, List.isEmpty_iff, hne, if_false, Option.map_some, List.length_nil]
  rfl

theorem cast_signed (negative : Bool) (n : Nat) :
    (Binary64.signed negative n : ℚ) = if negative then -(n : ℚ) else n := by
  cases negative with
  | true => exact (Int.cast_neg _).trans (congrArg Neg.neg (Int.cast_natCast n))
  | false => exact Int.cast_natCast n

/-- Integers are denoted by their texts. -/
theorem decimalValue?_intText (n : Int) : decimalValue? (intText n) = some (n : ℚ) := by
  have htext : intText n = if decide (n < 0) then '-' :: natText n.natAbs else natText n.natAbs := by
    rw [intText]
    simp only [decide_eq_true_eq]
  have hsigned := cast_signed (decide (n < 0)) n.natAbs
  rw [Digits.signed_natAbs] at hsigned
  rw [decimalValue?, htext, readDecimal?_digits (natText_ne_nil _) (areDigits_natText _), Option.map_some,
    ofDigitChars_natText, hsigned]
  simp only [Digits.value, zpow_zero, mul_one]

/-! ### decimals -/

theorem isPlainMagnitude_positional {ds : List Char} (hne : ds ≠ []) (hds : AreDigits ds) (point : Int) :
    IsPlainMagnitude (positional ds point) := by
  unfold positional
  split_ifs with hzero hlt
  · have hfraction := (areDigits_zeros (-point).toNat).append hds
    exact .pointed (List.cons_ne_nil '0' []) (areDigits_zeros 1) (List.append_ne_nil_of_right_ne_nil _ hne) hfraction
  · refine .pointed ?_ (fun c hc => hds c (List.mem_of_mem_take hc)) ?_ fun c hc => hds c (List.mem_of_mem_drop hc)
    · rw [← List.length_pos_iff, List.length_take]
      omega
    · rw [← List.length_pos_iff, List.length_drop]
      omega
  · exact .pointed (List.append_ne_nil_of_left_ne_nil hne _) (hds.append (areDigits_zeros _))
      (List.cons_ne_nil _ _) (areDigits_zeros 1)

theorem exponent_mem_scientific (style : Style) (ds : List Char) (point : Int) :
    'e' ∈ scientific style ds point := by
  unfold scientific
  exact List.mem_append_right _ List.mem_cons_self

namespace Digits

/-- A decimal is written without an exponent if its point is within the bounds of the style. -/
theorem isPlainDecimal_text_iff (style : Style) {d : Digits} (hd : d.coefficient ≠ 0) (negative : Bool) :
    IsPlainDecimal (if negative then '-' :: d.text style else d.text style) ↔
      style.leastPoint ≤ d.point ∧ d.point ≤ style.greatestPoint := by
  have hpoint : (natText d.coefficient).length + d.exponent = d.point := by
    rw [point, Binary64.digitCount, if_neg hd, natText]
  have htext : d.text style = if style.leastPoint ≤ d.point ∧ d.point ≤ style.greatestPoint then
      positional (natText d.coefficient) d.point else scientific style (natText d.coefficient) d.point := by
    unfold text
    simp only [hpoint]
  by_cases hwithin : style.leastPoint ≤ d.point ∧ d.point ≤ style.greatestPoint
  · have hplain := isPlainMagnitude_positional (natText_ne_nil _) (areDigits_natText d.coefficient) d.point
    rw [htext, if_pos hwithin]
    exact iff_of_true (hplain.signed negative) hwithin
  · have hmem := exponent_mem_scientific style (natText d.coefficient) d.point
    rw [htext, if_neg hwithin]
    refine iff_of_false (fun hplain => hplain.no_exponent ?_) hwithin
    cases negative with
    | true => exact List.mem_cons_of_mem _ hmem
    | false => exact hmem

end Digits

/-! ### binary64 numbers -/

namespace Binary64

variable {x y : Binary64} {q : ℚ}

/-- The number that a finite binary64 number is. -/
def value? : Binary64 → Option ℚ
  | .finite negative rank => some (if negative then -magnitude rank else magnitude rank)
  | _ => none

/-- Finite numbers have a sign and the magnitude of their rank. -/
theorem exists_rank (hx : x.value? = some q) :
    ∃ negative rank, x = .finite negative rank ∧ q = (if negative then -magnitude rank else magnitude rank) ∧
      |q| = magnitude rank := by
  cases x with
  | finite negative rank =>
    obtain rfl := Option.some.inj hx
    refine ⟨negative, rank, rfl, rfl, ?_⟩
    cases negative with
    | true => exact (abs_neg _).trans (abs_of_nonneg (magnitude_nonneg rank))
    | false => exact abs_of_nonneg (magnitude_nonneg rank)
  | infinity negative => cases hx
  | nan => cases hx

theorem isFinite_iff : x.isFinite = true ↔ ∃ q, x.value? = some q := by
  cases x with
  | finite negative rank => exact iff_of_true rfl ⟨_, rfl⟩
  | infinity negative => exact iff_of_false Bool.false_ne_true fun ⟨_, h⟩ => nomatch h
  | nan => exact iff_of_false Bool.false_ne_true fun ⟨_, h⟩ => nomatch h

/-- Numbers other than zero are written in one way only. -/
theorem value?_inj (hx : x.value? = some q) (hy : y.value? = some q) (hq : q ≠ 0) : x = y := by
  obtain ⟨negative, rank, rfl, hvalue, habs⟩ := exists_rank hx
  obtain ⟨negative', rank', rfl, hvalue', habs'⟩ := exists_rank hy
  have hrank : rank = rank' := Fin.ext (magnitude_strictMono.injective (habs.symm.trans habs'))
  subst hrank
  have hpos : magnitude rank ≠ 0 := by
    rw [← habs]
    exact abs_ne_zero.mpr hq
  have hne : magnitude rank ≠ -magnitude rank := fun h => hpos (self_eq_neg.mp h)
  cases negative with
  | true =>
    cases negative' with
    | true => rfl
    | false => exact absurd (hvalue'.symm.trans hvalue) hne
  | false =>
    cases negative' with
    | true => exact absurd (hvalue.symm.trans hvalue') hne
    | false => rfl

/-! ### integers among them -/

theorem magnitude_eq_natCast_iff {r k : Nat} : magnitude r = k ↔ units r = k * unitsPerOne := by
  rw [magnitude, div_eq_iff cast_unitsPerOne_pos.ne']
  exact_mod_cast Iff.rfl

/-- A binary64 number has an integer that it equals if it is one. -/
theorem integer?_eq (hx : x.value? = some q) : x.integer? = if q.den = 1 then some q.num else none := by
  obtain ⟨negative, rank, rfl, hvalue, habs⟩ := exists_rank hx
  rw [integer?]
  by_cases hmod : units rank % unitsPerOne = 0
  · have hunits : units rank = units rank / unitsPerOne * unitsPerOne :=
      (Nat.div_mul_cancel (Nat.dvd_of_mod_eq_zero hmod)).symm
    have hq : q = (signed negative (units rank / unitsPerOne) : Int) := by
      rw [hvalue, cast_signed, magnitude_eq_natCast_iff.mpr hunits]
    rw [if_pos hmod, hq, Rat.den_intCast, if_pos rfl, Rat.num_intCast]
  · have hden : q.den ≠ 1 := by
      intro hden
      have habsnum : magnitude rank = q.num.natAbs := by
        rw [← habs, Nat.cast_natAbs, Int.cast_abs, Rat.coe_int_num_of_den_eq_one hden]
      rw [magnitude_eq_natCast_iff.mp habsnum, Nat.mul_mod_left] at hmod
      exact hmod rfl
    rw [if_neg hmod, if_neg hden]

/-- From 10 ^ 16 on all binary64 numbers are integers. -/
theorem units_mod_of_le {r : Nat} (h : (Digits.mk 1 16).rank ≤ r) : units r % unitsPerOne = 0 := by
  have hbinade : 1075 * binade ≤ (Digits.mk 1 16).rank := by decide +kernel
  have hdiv : 1075 ≤ r / binade := (Nat.le_div_iff_mul_le binade_pos).mpr (hbinade.trans h)
  have hexponent : 1074 ≤ r / binade - 1 := by omega
  have hdvd : unitsPerOne ∣ Nat.pow 2 (r / binade - 1) := Nat.pow_dvd_pow 2 hexponent
  rw [units, if_neg (by omega)]
  exact Nat.mod_eq_zero_of_dvd (hdvd.mul_left _)

/-! ### least numbers without an exponent -/

/-- A decimal that is itself the shortest one of a number bounds the shortest decimals as it bounds the numbers. -/
theorem le_value_shortest_iff {t : Digits} {r : Nat} (hr : r < rankBound) (hshortest : shortest t.rank = t)
    (hvalue : t.value ≤ magnitude t.rank) : t.value ≤ (shortest r).value ↔ t.value ≤ magnitude r := by
  constructor
  · intro hle
    have hrank := Digits.rank_mono hle
    rw [rank_shortest hr] at hrank
    exact hvalue.trans (magnitude_strictMono.monotone hrank)
  · intro hle
    rcases Nat.lt_or_eq_of_le (rank_le hle) with hlt | rfl
    · by_contra hnot
      have hrank := Digits.rank_mono (not_le.mp hnot).le
      rw [rank_shortest hr] at hrank
      exact Nat.not_le.mpr hlt hrank
    · exact hshortest.symm ▸ le_rfl

theorem shortest_tenThousandth : shortest (Digits.mk 1 (-4)).rank = ⟨1, -4⟩ := by decide +kernel

/-- The number nearest to 0.0001 is somewhat greater. -/
theorem tenThousandth_le : (Digits.mk 1 (-4)).value ≤ magnitude (Digits.mk 1 (-4)).rank := by
  have hunits : unitsPerOne ≤ units (Digits.mk 1 (-4)).rank * 10 ^ 4 := by decide +kernel
  rw [Digits.value_one, magnitude, le_div_iff₀ cast_unitsPerOne_pos, zpow_neg, ← div_eq_inv_mul,
    div_le_iff₀ (by norm_num)]
  generalize unitsPerOne = u at hunits ⊢
  generalize units (Digits.mk 1 (-4)).rank = n at hunits ⊢
  exact_mod_cast hunits

/-- **Of the numbers with a fraction those from 0.0001 on are written without an exponent.** -/
theorem isPlainDecimal_text_iff (hx : x.value? = some q) (hq : q.den ≠ 1) :
    IsPlainDecimal x.text ↔ 1 / 10000 ≤ |q| := by
  have hinteger := integer?_eq hx
  obtain ⟨negative, rank, rfl, _, habs⟩ := exists_rank hx
  have hback := rank_shortest rank.isLt
  have hcoefficient : (shortest rank).coefficient ≠ 0 := by
    intro hzero
    rw [Digits.rank_eq_zero hzero] at hback
    rw [← hback, magnitude_zero, abs_eq_zero] at habs
    rw [habs] at hq
    exact hq rfl
  have hpoint := Digits.value_lt_zpow_iff hcoefficient
  have hleast : 1 / 10000 ≤ |q| ↔ Style.plain.leastPoint ≤ (shortest rank).point := by
    have hbound := le_value_shortest_iff rank.isLt shortest_tenThousandth tenThousandth_le
    have hpower : (10 : ℚ) ^ (-4 : Int) = 1 / 10000 := by norm_num
    have hpositions : ¬ (shortest rank).point ≤ -4 ↔ Style.plain.leastPoint ≤ (shortest rank).point := by
      show ¬ (shortest rank).point ≤ -4 ↔ -3 ≤ (shortest rank).point
      omega
    rw [Digits.value_one, ← not_lt, hpoint, hpositions, hpower, ← habs] at hbound
    exact hbound.symm
  have hgreatest : (shortest rank).point ≤ Style.plain.greatestPoint := by
    by_contra hbeyond
    have hvalue : (Digits.mk 1 16).value ≤ (shortest rank).value := by
      rw [Digits.value_one, ← not_lt, hpoint]
      exact hbeyond
    have hrank := Digits.rank_mono hvalue
    rw [hback] at hrank
    rw [integer?, if_pos (units_mod_of_le hrank), if_neg hq] at hinteger
    cases hinteger
  rw [hleast]
  exact (Digits.isPlainDecimal_text_iff Style.plain hcoefficient negative).trans (and_iff_left hgreatest)

end Binary64

end LinkedData.Numeric
