import Mathlib.Tactic.Ring
import LinkedData.Numeric.FloatText
import LinkedData.Proofs.Numeric.Digits
import LinkedData.Proofs.Text.Ascii

/-!
# The notation of numbers

* `Numeral`: the digits of a written number before and after its point and in its exponent, and `Numeral.chars`, how
  they are written;
* `Numeral.IsProper`: there are digits where there have to be some and no needless zeros before them;
* `readDecimal?_chars`: reading such a text gives its digits;
* `Digits.isWrittenAs_text`: the text of a decimal is one, up to zeros at its end;
* `Binary64.read?_text`: the text of a finite number reads back as that number.
-/

namespace LinkedData.Numeric

/-! ### runs of digits -/

/-- All characters are digits. -/
def AreDigits (cs : List Char) : Prop := ∀ c ∈ cs, c.isDigit = true

/-- The text does not begin with a digit. -/
def EndsDigits (cs : List Char) : Prop := ∀ c ∈ cs.head?, c.isDigit = false

theorem areDigits_natText (n : Nat) : AreDigits (natText n) :=
  fun _ hc => Nat.isDigit_of_mem_toDigits (by decide) (by decide) hc

theorem areDigits_zeros (k : Nat) : AreDigits (List.replicate k '0') := by
  intro c hc
  rw [List.eq_of_mem_replicate hc]
  rfl

theorem AreDigits.append {ds es : List Char} (hds : AreDigits ds) (hes : AreDigits es) : AreDigits (ds ++ es) := by
  intro c hc
  rcases List.mem_append.mp hc with hc | hc
  · exact hds c hc
  · exact hes c hc

theorem natText_ne_nil (n : Nat) : natText n ≠ [] := Nat.toDigits_ne_nil

/-- Numbers other than zero do not begin with a zero. -/
theorem natText_head {n : Nat} (hn : 0 < n) : (natText n).head? ≠ some '0' := by
  induction n using Nat.strong_induction_on with
  | _ n ih =>
    unfold natText at ih ⊢
    by_cases hlt : n < 10
    · rw [Nat.toDigits_of_lt_base hlt, List.head?_cons]
      have hall : ∀ m < 10, 0 < m → some m.digitChar ≠ some '0' := by decide
      exact hall n hlt hn
    · have hhead := ih (n / 10) (by omega) (by omega)
      rw [Nat.toDigits_of_base_le (by decide) (by omega)]
      cases hd : Nat.toDigits 10 (n / 10) with
      | nil => exact absurd hd Nat.toDigits_ne_nil
      | cons c cs =>
        rw [hd] at hhead
        exact hhead

/-! ### values of digits -/

theorem ofDigitChars_natText (n : Nat) : Nat.ofDigitChars 10 (natText n) 0 = n :=
  Nat.ofDigitChars_toDigits (by decide) (by decide)

theorem ofDigitChars_append_zeros (ds : List Char) (k : Nat) :
    Nat.ofDigitChars 10 (ds ++ List.replicate k '0') 0 = Nat.ofDigitChars 10 ds 0 * 10 ^ k := by
  rw [Nat.ofDigitChars_append, Nat.ofDigitChars_replicate_zero, Nat.mul_comm]

theorem ofDigitChars_zeros_append (ds : List Char) (k : Nat) :
    Nat.ofDigitChars 10 (List.replicate k '0' ++ ds) 0 = Nat.ofDigitChars 10 ds 0 := by
  rw [Nat.ofDigitChars_append, Nat.ofDigitChars_replicate_zero, Nat.mul_zero]

/-! ### numerals -/

/-- The digits of a written number: those before the point, those after it, and the sign and digits of the exponent. -/
structure Numeral where
  whole : List Char
  fraction : List Char
  exponent : Option (Bool × List Char)

namespace Numeral

/-- The point and what follows it, if there are digits after it. -/
def fractionText (n : Numeral) : List Char := if n.fraction = [] then [] else '.' :: n.fraction

/-- The exponent as it is written. -/
def exponentText (n : Numeral) : List Char :=
  match n.exponent with
  | none => []
  | some (negative, ds) => 'e' :: (if negative then '-' else '+') :: ds

/-- The number as it is written. -/
def chars (n : Numeral) : List Char := n.whole ++ (n.fractionText ++ n.exponentText)

/-- The value of the exponent. -/
def power (n : Numeral) : Int :=
  match n.exponent with
  | none => 0
  | some (negative, ds) => Binary64.signed negative (Nat.ofDigitChars 10 ds 0)

/-- The number that is written. -/
def digits (n : Numeral) : Digits :=
  ⟨Nat.ofDigitChars 10 (n.whole ++ n.fraction) 0, n.power - n.fraction.length⟩

/-- There are digits before the point and in the exponent, there is a point or an exponent, and zeros only begin the
number if one stands alone before the point. -/
structure IsProper (n : Numeral) : Prop where
  whole_ne_nil : n.whole ≠ []
  whole_digits : AreDigits n.whole
  no_needless_zero : 1 < n.whole.length → n.whole.head? ≠ some '0'
  fraction_digits : AreDigits n.fraction
  exponent_digits : ∀ negative ds, n.exponent = some (negative, ds) → ds ≠ [] ∧ AreDigits ds
  has_more : n.fraction ≠ [] ∨ n.exponent ≠ none

theorem fractionText_nil {n : Numeral} (h : n.fraction = []) : n.fractionText = [] := if_pos h

theorem fractionText_cons {n : Numeral} (h : n.fraction ≠ []) : n.fractionText = '.' :: n.fraction := if_neg h

theorem endsDigits_exponentText (n : Numeral) : EndsDigits n.exponentText := by
  unfold exponentText
  split
  · intro c hc
    cases hc
  · intro c hc
    obtain rfl := Option.some.inj hc
    rfl

theorem endsDigits_after_whole (n : Numeral) : EndsDigits (n.fractionText ++ n.exponentText) := by
  unfold fractionText
  split
  · exact n.endsDigits_exponentText
  · intro c hc
    obtain rfl := Option.some.inj hc
    rfl

/-- What is written begins with a digit. -/
theorem IsProper.chars_head {n : Numeral} (h : n.IsProper) : ∃ c cs, n.chars = c :: cs ∧ c.isDigit = true := by
  cases hw : n.whole with
  | nil => exact absurd hw h.whole_ne_nil
  | cons c cs =>
    refine ⟨c, cs ++ (n.fractionText ++ n.exponentText), ?_, h.whole_digits c (hw ▸ List.mem_cons_self)⟩
    rw [chars, hw, List.cons_append]

/-- There is something after the digits before the point. -/
theorem IsProper.more_ne_nil {n : Numeral} (h : n.IsProper) : n.fractionText ++ n.exponentText ≠ [] := by
  rcases h.has_more with hfraction | hexp
  · rw [fractionText_cons hfraction]
    exact List.cons_ne_nil _ _
  · refine List.append_ne_nil_of_right_ne_nil _ ?_
    unfold exponentText
    split
    · next hnone => exact absurd hnone hexp
    · exact List.cons_ne_nil _ _

end Numeral

/-! ### reading -/

theorem readSign_digit {c : Char} (hc : c.isDigit = true) (cs : List Char) : readSign (c :: cs) = (false, c :: cs) := by
  unfold readSign
  split
  · next h =>
    obtain ⟨rfl, rfl⟩ := List.cons.inj h
    exact absurd hc (by decide)
  · next h =>
    obtain ⟨rfl, rfl⟩ := List.cons.inj h
    exact absurd hc (by decide)
  · rfl

theorem readSign_chars {n : Numeral} (h : n.IsProper) (negative : Bool) :
    readSign (if negative then '-' :: n.chars else n.chars) = (negative, n.chars) := by
  cases negative with
  | true => rfl
  | false =>
    obtain ⟨c, cs, hchars, hc⟩ := h.chars_head
    rw [hchars]
    exact readSign_digit hc cs

theorem readExponent?_digits {ds : List Char} (hne : ds ≠ []) (hds : AreDigits ds) (negative : Bool) :
    readExponent? ((if negative then '-' else '+') :: ds) =
      some (Binary64.signed negative (Nat.ofDigitChars 10 ds 0)) := by
  have hread : readSign ((if negative then '-' else '+') :: ds) = (negative, ds) := by cases negative <;> rfl
  have hempty : ds.isEmpty = false := by rwa [List.isEmpty_eq_false_iff]
  have hall : ds.all Char.isDigit = true := List.all_eq_true.mpr hds
  simp only [readExponent?, hread, hempty, hall, Bool.not_true, Bool.or_self, Bool.false_eq_true, if_false]

theorem Numeral.IsProper.exponent_cases {n : Numeral} (h : n.IsProper) :
    n.exponentText = [] ∧ n.power = 0 ∨
      ∃ cs, n.exponentText = 'e' :: cs ∧ readExponent? cs = some n.power := by
  unfold exponentText power
  cases hexp : n.exponent with
  | none => exact Or.inl ⟨rfl, rfl⟩
  | some e =>
    obtain ⟨negative, ds⟩ := e
    obtain ⟨hne, hds⟩ := h.exponent_digits negative ds hexp
    exact Or.inr ⟨_, rfl, readExponent?_digits hne hds negative⟩

theorem readDecimal?_chars {n : Numeral} (h : n.IsProper) (negative : Bool) :
    readDecimal? (if negative then '-' :: n.chars else n.chars) = some (negative, n.digits) := by
  have hwhole : n.chars.takeWhile Char.isDigit = n.whole :=
    Text.takeWhile_run h.whole_digits n.endsDigits_after_whole
  have hafter : n.chars.dropWhile Char.isDigit = n.fractionText ++ n.exponentText :=
    Text.dropWhile_run h.whole_digits n.endsDigits_after_whole
  have hfraction : (n.fraction ++ n.exponentText).takeWhile Char.isDigit = n.fraction :=
    Text.takeWhile_run h.fraction_digits n.endsDigits_exponentText
  have hrest : (n.fraction ++ n.exponentText).dropWhile Char.isDigit = n.exponentText :=
    Text.dropWhile_run h.fraction_digits n.endsDigits_exponentText
  have hne : ¬ (n.whole ++ n.fraction).isEmpty = true := by
    rw [List.isEmpty_iff]
    exact List.append_ne_nil_of_left_ne_nil h.whole_ne_nil _
  unfold readDecimal?
  rw [readSign_chars h]
  simp only [hwhole, hafter]
  by_cases hnil : n.fraction = []
  · -- no point: the exponent follows the digits, or nothing does
    rw [hnil, List.append_nil] at hne
    have hfractionText := Numeral.fractionText_nil hnil
    rcases h.exponent_cases with ⟨htext, hpower⟩ | ⟨cs, htext, hread⟩
    · simp only [hfractionText, htext, List.append_nil, if_neg hne, Option.map_some, Numeral.digits, hnil, hpower]
    · simp [hfractionText, htext, hread, Numeral.digits, hnil, h.whole_ne_nil]
  · have hfractionText := Numeral.fractionText_cons hnil
    simp only [hfractionText, List.cons_append, hfraction, hrest, if_neg hne]
    rcases h.exponent_cases with ⟨htext, hpower⟩ | ⟨cs, htext, hread⟩
    · simp only [htext, Option.map_some, Numeral.digits, hpower]
    · simp only [htext, hread, Option.map_some, Numeral.digits]

/-! ### writing -/

namespace Digits

/-- The text is that of the decimal, up to zeros at its end. -/
def IsWrittenAs (d : Digits) (cs : List Char) : Prop :=
  ∃ n : Numeral, n.IsProper ∧ cs = n.chars ∧ ∃ k : Nat, n.digits = ⟨d.coefficient * 10 ^ k, d.exponent - k⟩

/-- A decimal below one, with a zero before the point. -/
theorem isWrittenAs_below_one {d : Digits} {point : Int} (hpoint : (natText d.coefficient).length + d.exponent = point)
    (hle : point ≤ 0) :
    d.IsWrittenAs ('0' :: '.' :: List.replicate (-point).toNat '0' ++ natText d.coefficient) := by
  have hne : List.replicate (-point).toNat '0' ++ natText d.coefficient ≠ [] :=
    List.append_ne_nil_of_right_ne_nil _ (natText_ne_nil _)
  refine ⟨⟨['0'], List.replicate (-point).toNat '0' ++ natText d.coefficient, none⟩, ?_, ?_, 0, ?_⟩
  · exact
      { whole_ne_nil := List.cons_ne_nil _ _
        whole_digits := areDigits_zeros 1
        no_needless_zero := fun h => absurd h (Nat.lt_irrefl 1)
        fraction_digits := (areDigits_zeros _).append (areDigits_natText _)
        exponent_digits := fun _ _ h => nomatch h
        has_more := Or.inl hne }
  · simp only [Numeral.chars, Numeral.fractionText, if_neg hne, Numeral.exponentText, List.append_nil,
      List.cons_append, List.nil_append]
  · have hzeros : ['0'] ++ (List.replicate (-point).toNat '0' ++ natText d.coefficient) =
        List.replicate ((-point).toNat + 1) '0' ++ natText d.coefficient := by
      rw [List.replicate_succ]
      rfl
    simp only [Numeral.digits, hzeros, ofDigitChars_zeros_append, ofDigitChars_natText, Numeral.power,
      List.length_append, List.length_replicate, Nat.pow_zero, Nat.mul_one, Digits.mk.injEq, true_and]
    omega

theorem natText_zero : natText 0 = ['0'] := rfl

/-- The first digit of a decimal of two digits or more is no zero. -/
theorem natText_no_needless_zero {n : Nat} (h : 1 < (natText n).length) : (natText n).head? ≠ some '0' := by
  rcases Nat.eq_zero_or_pos n with rfl | hpos
  · exact absurd h (by decide)
  · exact natText_head hpos

/-- A decimal with its point among its digits. -/
theorem isWrittenAs_pointed {d : Digits} {point : Int} (hpoint : (natText d.coefficient).length + d.exponent = point)
    (hpos : 0 < point) (hlt : point < (natText d.coefficient).length) :
    d.IsWrittenAs
      ((natText d.coefficient).take point.toNat ++ '.' :: (natText d.coefficient).drop point.toNat) := by
  have hdrop : (natText d.coefficient).drop point.toNat ≠ [] := by
    rw [← List.length_pos_iff, List.length_drop]
    omega
  refine ⟨⟨(natText d.coefficient).take point.toNat, (natText d.coefficient).drop point.toNat, none⟩, ?_, ?_, 0, ?_⟩
  · refine
      { whole_ne_nil := ?_
        whole_digits := fun c hc => areDigits_natText _ c (List.mem_of_mem_take hc)
        no_needless_zero := fun h => ?_
        fraction_digits := fun c hc => areDigits_natText _ c (List.mem_of_mem_drop hc)
        exponent_digits := fun _ _ h => nomatch h
        has_more := Or.inl hdrop }
    · rw [← List.length_pos_iff, List.length_take]
      omega
    · rw [List.length_take] at h
      rw [List.head?_take, if_neg (by omega)]
      exact natText_no_needless_zero (by omega)
  · simp only [Numeral.chars, Numeral.fractionText, if_neg hdrop, Numeral.exponentText, List.append_nil]
  · simp only [Numeral.digits, List.take_append_drop, ofDigitChars_natText, Numeral.power, List.length_drop,
      Nat.pow_zero, Nat.mul_one, Digits.mk.injEq, true_and]
    omega

/-- A decimal without a fraction, with zeros up to the point and one behind it. -/
theorem isWrittenAs_whole {d : Digits} {point : Int} (hzero : d.coefficient = 0 → d.exponent = 0)
    (hpoint : (natText d.coefficient).length + d.exponent = point) (hge : (natText d.coefficient).length ≤ point) :
    d.IsWrittenAs
      (natText d.coefficient ++ List.replicate (point.toNat - (natText d.coefficient).length) '0' ++ ['.', '0']) := by
  generalize hk : point.toNat - (natText d.coefficient).length = k
  refine ⟨⟨natText d.coefficient ++ List.replicate k '0', ['0'], none⟩, ?_, ?_, k + 1, ?_⟩
  · refine
      { whole_ne_nil := List.append_ne_nil_of_left_ne_nil (natText_ne_nil _) _
        whole_digits := (areDigits_natText _).append (areDigits_zeros _)
        no_needless_zero := fun h => ?_
        fraction_digits := areDigits_zeros 1
        exponent_digits := fun _ _ h => nomatch h
        has_more := Or.inl (List.cons_ne_nil _ _) }
    rcases Nat.eq_zero_or_pos d.coefficient with hd | hd
    · have hexp := hzero hd
      rw [hd, natText_zero] at hpoint hk h
      rw [List.length_append, List.length_replicate, List.length_singleton] at h
      rw [List.length_singleton] at hpoint hk
      omega
    · have hhead := natText_head hd
      cases hds : natText d.coefficient with
      | nil => exact absurd hds (natText_ne_nil _)
      | cons c cs =>
        rw [hds] at hhead
        exact hhead
  · simp only [Numeral.chars, Numeral.fractionText, Numeral.exponentText, List.append_nil, List.cons_ne_self,
      if_false]
  · have hzeros : natText d.coefficient ++ List.replicate k '0' ++ ['0'] =
        natText d.coefficient ++ List.replicate (k + 1) '0' := by
      rw [List.replicate_succ', List.append_assoc]
    simp only [Numeral.digits, hzeros, ofDigitChars_append_zeros, ofDigitChars_natText, Numeral.power,
      List.length_singleton, Digits.mk.injEq, true_and]
    omega

theorem signed_natAbs (e : Int) : Binary64.signed (decide (e < 0)) e.natAbs = e := by
  unfold Binary64.signed
  by_cases h : e < 0
  · rw [decide_eq_true h, if_pos rfl]
    omega
  · rw [decide_eq_false h, if_neg Bool.false_ne_true]
    omega

/-- A decimal with an exponent. -/
theorem isWrittenAs_scientific {d : Digits} (style : Style) {point : Int}
    (hpoint : (natText d.coefficient).length + d.exponent = point) :
    d.IsWrittenAs (scientific style (natText d.coefficient) point) := by
  cases hds : natText d.coefficient with
  | nil => exact absurd hds (natText_ne_nil _)
  | cons c rest =>
    have hdigits : AreDigits (c :: rest) := hds ▸ areDigits_natText d.coefficient
    have hvalue : Nat.ofDigitChars 10 (c :: rest) 0 = d.coefficient := hds ▸ ofDigitChars_natText d.coefficient
    obtain ⟨k, hexponent⟩ : ∃ k, style.exponentText (point - 1) =
        (if decide (point - 1 < 0) then '-' else '+') :: (List.replicate k '0' ++ natText (point - 1).natAbs) := by
      refine ⟨style.exponentDigits - (natText (point - 1).natAbs).length, ?_⟩
      simp only [Style.exponentText, decide_eq_true_eq, List.cons_append]
    refine ⟨⟨[c], rest, some (decide (point - 1 < 0), List.replicate k '0' ++ natText (point - 1).natAbs)⟩,
      ?_, ?_, 0, ?_⟩
    · refine
        { whole_ne_nil := List.cons_ne_nil _ _
          whole_digits := fun c' hc => hdigits c' (List.mem_singleton.mp hc ▸ List.mem_cons_self)
          no_needless_zero := fun h => absurd h (Nat.lt_irrefl 1)
          fraction_digits := fun c' hc => hdigits c' (List.mem_cons_of_mem _ hc)
          exponent_digits := fun negative ds h => ?_
          has_more := Or.inr (Option.some_ne_none _) }
      obtain ⟨rfl, rfl⟩ := Prod.mk.inj (Option.some.inj h)
      exact ⟨List.append_ne_nil_of_right_ne_nil _ (natText_ne_nil _), (areDigits_zeros _).append (areDigits_natText _)⟩
    · cases rest with
      | nil =>
        simp only [scientific, hexponent]
        rfl
      | cons e rest =>
        simp only [scientific, hexponent]
        rfl
    · simp only [Numeral.digits, Numeral.power, List.singleton_append, hvalue, ofDigitChars_zeros_append,
        ofDigitChars_natText, signed_natAbs, Nat.pow_zero, Nat.mul_one, Digits.mk.injEq, true_and]
      rw [hds, List.length_cons] at hpoint
      omega

/-- The text of a decimal is that of its digits in every style. -/
theorem isWrittenAs_text (style : Style) {d : Digits} (hzero : d.coefficient = 0 → d.exponent = 0) :
    d.IsWrittenAs (d.text style) := by
  unfold text
  dsimp only
  generalize hpoint : ((natText d.coefficient).length : Int) + d.exponent = point
  split
  · unfold positional
    split
    · next hle => exact isWrittenAs_below_one hpoint hle
    · split
      · exact isWrittenAs_pointed hpoint (by omega) (by omega)
      · exact isWrittenAs_whole hzero hpoint (by omega)
  · exact isWrittenAs_scientific style hpoint

theorem stripZeros_ne_zero (fuel : Nat) {d : Digits} (h : d.coefficient ≠ 0) : (stripZeros fuel d).coefficient ≠ 0 := by
  induction fuel generalizing d with
  | zero => exact h
  | succ fuel ih =>
    rw [stripZeros]
    split
    · next hten => exact ih (by simp only; omega)
    · exact h

/-- Without trailing zeros zero is written in one way only. -/
theorem normalize_exponent {d : Digits} (h : d.normalize.coefficient = 0) : d.normalize.exponent = 0 := by
  unfold normalize at h ⊢
  by_cases hzero : d.coefficient = 0
  · rw [if_pos hzero]
  · rw [if_neg hzero] at h
    exact absurd h (stripZeros_ne_zero _ hzero)

end Digits

/-! ### reading what was written -/

namespace Binary64

/-- The text of a finite number is that of the digits of its magnitude, after a minus sign if it has one. -/
theorem text_eq_chars (negative : Bool) (rank : Fin rankBound) :
    ∃ n : Numeral, n.IsProper ∧ (finite negative rank).text = (if negative then '-' :: n.chars else n.chars) ∧
      ofDecimal negative n.digits.coefficient n.digits.exponent = finite negative rank := by
  obtain ⟨n, hproper, hchars, k, hdigits⟩ :=
    Digits.isWrittenAs_text Style.plain (d := shortest rank.val) Digits.normalize_exponent
  refine ⟨n, hproper, ?_, ofDecimal_sign negative ?_⟩
  · rw [text]
    simp only [hchars]
  · have hback := toBinary64_shortest rank.val
    rw [Digits.toBinary64, ofRank, dif_pos rank.isLt] at hback
    rw [hdigits, ofDecimal_mul_pow, Int.sub_add_cancel]
    exact hback

/-- **The text of a finite number reads back as that number.** -/
theorem read?_text {x : Binary64} (h : x.isFinite = true) : read? x.text = some x := by
  cases x with
  | finite negative rank =>
    obtain ⟨n, hproper, htext, hback⟩ := text_eq_chars negative rank
    obtain ⟨c, cs, hchars, hc⟩ := hproper.chars_head
    have hne : ∀ name : List Char, name.any Char.isDigit = false →
        (if negative then '-' :: n.chars else n.chars) ≠ name := by
      intro name hname heq
      have hmem : c ∈ name := by
        rw [← heq, hchars]
        cases negative <;> simp
      rw [List.any_eq_false] at hname
      exact hname c hmem hc
    rw [htext, read?, if_neg (hne _ rfl), if_neg (hne _ rfl), if_neg (hne _ rfl),
      readDecimal?_chars hproper]
    exact congrArg some hback
  | infinity negative => cases h
  | nan => cases h

end Binary64

end LinkedData.Numeric
