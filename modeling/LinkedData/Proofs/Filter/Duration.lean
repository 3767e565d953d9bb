import LinkedData.Filter
import LinkedData.Proofs.Json.Tokens
import LinkedData.Proofs.Numeric.Plain
import LinkedData.Proofs.Value.Parts

/-!
# Durations

* `Value.number?`: the number that an integer or a finite binary64 number is;
* `minutes_of_whole`, `minutes_of_fraction`: the duration of so many minutes, without and with a fraction;
* `minutes_of_none`: what is no number has none;
* `Value.WrittenAs`: the text of a number of minutes, which is plain unless the number is a small fraction;
* `minutes_writes_number`: every number that can be written has a duration, equal numbers have the same one, and
  whatever else there is has none.
-/

namespace LinkedData

open Numeric

variable {v w t u : Value} {q : ℚ} {x : Binary64}

/-- The number that a value is, if it is an integer or a finite binary64 number. -/
def Value.number? : Value → Option ℚ
  | .int n => some (n : ℚ)
  | .float x => x.value?
  | _ => none

theorem durationText_inj {cs ds : List Char} (h : durationText cs = durationText ds) : cs = ds := by
  have hchars := String.ofList_injective h
  rw [List.cons_append, List.cons_append] at hchars
  exact List.append_cancel_right (List.cons.inj (List.cons.inj hchars).2).2

/-! ### which values have a duration -/

theorem minutes_float (hx : x.value? = some q) :
    minutes (.float x) = .ok (.str (durationText (if q.den = 1 then intText q.num else x.text))) := by
  have hinteger := Binary64.integer?_eq hx
  rw [minutes, if_pos (Binary64.isFinite_iff.mpr ⟨q, hx⟩)]
  by_cases hq : q.den = 1
  · rw [if_pos hq] at hinteger
    simp only [hinteger, if_pos hq]
  · rw [if_neg hq] at hinteger
    simp only [hinteger, if_neg hq]

/-- Whole numbers have the duration of the integer that they are. -/
theorem minutes_of_whole (h : v.number? = some q) (hv : v.isWritable = true) (hq : q.den = 1) :
    minutes v = .ok (.str (durationText (intText q.num))) := by
  unfold Value.number? at h
  split at h
  · next n =>
    obtain rfl := Option.some.inj h
    have hn : isWritable n = true := hv
    rw [minutes, if_pos hn, Rat.num_intCast]
  · rw [minutes_float h, if_pos hq]
  · cases h

/-- Numbers with a fraction have the duration of the binary64 number that they are. -/
theorem minutes_of_fraction (h : v.number? = some q) (hq : q.den ≠ 1) :
    ∃ x, v = .float x ∧ x.value? = some q ∧ minutes v = .ok (.str (durationText x.text)) := by
  unfold Value.number? at h
  split at h
  · next n =>
    obtain rfl := Option.some.inj h
    exact absurd (Rat.den_intCast n) hq
  · next x =>
    refine ⟨x, rfl, h, ?_⟩
    rw [minutes_float h, if_neg hq]
  · cases h

/-- What is no number has no duration. -/
theorem minutes_of_none (h : v.number? = none) (hv : v.isWritable = true) :
    ∃ expected, minutes v = .error (.fault (.filterType minutesName expected v)) := by
  unfold Value.number? at h
  split at h
  · cases h
  · next x =>
    have hinfinite : ¬ x.isFinite = true := by
      rw [Binary64.isFinite_iff, h]
      rintro ⟨q, hq⟩
      cases hq
    exact ⟨_, if_neg hinfinite⟩
  · next hint hfloat =>
    unfold minutes
    split
    · next n => exact absurd rfl (hint n)
    · next x => exact absurd rfl (hfloat x)
    · exact ⟨_, congrArg Except.error (if_pos hv)⟩

/-- Values with an integer that is too long have none either. -/
theorem minutes_of_not_writable (hv : v.isWritable = false) : minutes v = .error .overlongInteger := by
  unfold minutes
  split
  · next n =>
    have hn : ¬ isWritable n = true := Bool.eq_false_iff.mp hv
    rw [if_neg hn]
  · cases hv
  · exact congrArg Except.error (if_neg (Bool.eq_false_iff.mp hv))

/-- Only numbers have a duration: that of an integer or that of a binary64 number. -/
theorem number_of_minutes (h : minutes v = .ok t) :
    ∃ q, v.number? = some q ∧
      (q.den = 1 ∧ t = .str (durationText (intText q.num)) ∨
        q.den ≠ 1 ∧ ∃ x, v = .float x ∧ x.value? = some q ∧ t = .str (durationText x.text)) := by
  have hv : v.isWritable = true := by
    by_contra hv
    rw [minutes_of_not_writable (Bool.eq_false_iff.mpr hv)] at h
    cases h
  cases hnumber : v.number? with
  | none =>
    obtain ⟨expected, hminutes⟩ := minutes_of_none hnumber hv
    rw [hminutes] at h
    cases h
  | some q =>
    refine ⟨q, rfl, ?_⟩
    by_cases hq : q.den = 1
    · rw [minutes_of_whole hnumber hv hq] at h
      exact Or.inl ⟨hq, (Except.ok.inj h).symm⟩
    · obtain ⟨x, hx, hvalue, hminutes⟩ := minutes_of_fraction hnumber hq
      rw [hminutes] at h
      exact Or.inr ⟨hq, x, hx, hvalue, (Except.ok.inj h).symm⟩

/-! ### what a duration tells of the number -/

/-- The text of a number with a fraction is that of no integer. -/
theorem text_ne_intText (hx : x.value? = some q) (n : Int) : x.text ≠ intText n := by
  intro htext
  have hread := Json.readNumber?_floatText (Binary64.isFinite_iff.mpr ⟨q, hx⟩)
  rw [htext, Json.readNumber?_intText] at hread
  cases hread

theorem text_inj {y : Binary64} {r : ℚ} (hx : x.value? = some q) (hy : y.value? = some r) (h : x.text = y.text) :
    x = y := by
  have hread := Binary64.read?_text (Binary64.isFinite_iff.mpr ⟨q, hx⟩)
  rw [h, Binary64.read?_text (Binary64.isFinite_iff.mpr ⟨r, hy⟩)] at hread
  exact (Option.some.inj hread).symm

theorem intText_inj {m n : Int} (h : intText m = intText n) : m = n := by
  have hread := decimalValue?_intText m
  rw [h, decimalValue?_intText] at hread
  exact (Int.cast_inj.mp (Option.some.inj hread)).symm

theorem eq_of_durationText {cs ds : List Char} (h : Value.str (durationText cs) = .str (durationText ds)) : cs = ds :=
  durationText_inj (Scalar.str.inj (Value.scalar.inj h))

/-- Equal numbers, and no others, have the same duration. -/
theorem minutes_eq_iff (hv : minutes v = .ok t) (hw : minutes w = .ok u) : t = u ↔ v.number? = w.number? := by
  obtain ⟨q, hq, hvtext⟩ := number_of_minutes hv
  obtain ⟨r, hr, hwtext⟩ := number_of_minutes hw
  rw [hq, hr, Option.some.injEq]
  rcases hvtext with ⟨hqden, rfl⟩ | ⟨hqden, x, rfl, hx, rfl⟩
  · rcases hwtext with ⟨hrden, rfl⟩ | ⟨hrden, y, rfl, hy, rfl⟩
    · constructor
      · intro h
        have hnum := intText_inj (eq_of_durationText h)
        rw [← Rat.coe_int_num_of_den_eq_one hqden, ← Rat.coe_int_num_of_den_eq_one hrden, hnum]
      · rintro rfl
        rfl
    · constructor
      · intro h
        exact absurd (eq_of_durationText h).symm (text_ne_intText hy q.num)
      · rintro rfl
        exact absurd hqden hrden
  · rcases hwtext with ⟨hrden, rfl⟩ | ⟨hrden, y, rfl, hy, rfl⟩
    · constructor
      · intro h
        exact absurd (eq_of_durationText h) (text_ne_intText hx r.num)
      · rintro rfl
        exact absurd hrden hqden
    · constructor
      · intro h
        obtain rfl := text_inj hx hy (eq_of_durationText h)
        exact Option.some.inj (hx.symm.trans hy)
      · rintro rfl
        have hne : q ≠ 0 := by
          rintro rfl
          exact hqden rfl
        rw [Binary64.value?_inj hx hy hne]

/-! ### durations of all values -/

/-- `cs` is the text of the number `q` of minutes that `v` is. -/
structure Value.WrittenAs (v : Value) (q : ℚ) (cs : List Char) : Prop where
  /-- It has no exponent, unless the number is a fraction below 0.0001. -/
  plain_iff : IsPlainDecimal cs ↔ q.den = 1 ∨ 1 / 10000 ≤ |q|
  /-- A whole number is what its text denotes. -/
  denotes : q.den = 1 → decimalValue? cs = some q
  /-- The text of a number with a fraction reads back as that number. -/
  reads_back : q.den ≠ 1 → ∀ x, v = .float x → Binary64.read? cs = some x

theorem writtenAs_whole (hq : q.den = 1) : v.WrittenAs q (intText q.num) where
  plain_iff := iff_of_true (isPlainDecimal_intText q.num) (Or.inl hq)
  denotes := fun _ => by rw [decimalValue?_intText, Rat.coe_int_num_of_den_eq_one hq]
  reads_back := fun hne => absurd hq hne

theorem writtenAs_fraction (hx : x.value? = some q) (hq : q.den ≠ 1) : (Value.float x).WrittenAs q x.text where
  plain_iff := (Binary64.isPlainDecimal_text_iff hx hq).trans (or_iff_right hq).symm
  denotes := fun hden => absurd hden hq
  reads_back := by
    rintro _ y hxy
    obtain rfl := Scalar.float.inj (Value.scalar.inj hxy)
    exact Binary64.read?_text (Binary64.isFinite_iff.mpr ⟨q, hx⟩)

/-- **Durations are exact.** Each number has one, and so in a plain text that denotes it, unless it is a fraction below
0.0001; whatever else there is has none, nor has a value with an integer that is too long to be written. Two of them
are equal for equal numbers only. -/
theorem minutes_writes_number (v w : Value) :
    (∀ q, v.number? = some q → v.isWritable = true →
      ∃ cs, minutes v = .ok (.str (durationText cs)) ∧ v.WrittenAs q cs) ∧
    (v.number? = none → v.isWritable = true →
      ∃ expected, minutes v = .error (.fault (.filterType minutesName expected v))) ∧
    (v.isWritable = false → minutes v = .error .overlongInteger) ∧
    ∀ t u, minutes v = .ok t → minutes w = .ok u → (t = u ↔ v.number? = w.number?) := by
  refine ⟨fun q hnumber hv => ?_, minutes_of_none, minutes_of_not_writable, fun t u => minutes_eq_iff⟩
  by_cases hq : q.den = 1
  · exact ⟨_, minutes_of_whole hnumber hv hq, writtenAs_whole hq⟩
  · obtain ⟨x, rfl, hx, hminutes⟩ := minutes_of_fraction hnumber hq
    exact ⟨_, hminutes, writtenAs_fraction hx hq⟩

/-- Two minutes and a half, five minutes in both ways, no minutes, and too many of them. -/
theorem fiveMinutes_written :
    (∃ cs, minutes (.float (Digits.mk 25 (-1)).toBinary64) = .ok (.str (durationText cs)) ∧ IsPlainDecimal cs ∧
      Binary64.read? cs = some (Digits.mk 25 (-1)).toBinary64) ∧
    (∃ t, minutes (.float (Digits.mk 5 0).toBinary64) = .ok t ∧ minutes (.int 5) = .ok t) ∧
    (∃ expected, minutes (.bool true) = .error (.fault (.filterType minutesName expected (.bool true)))) ∧
    minutes (.int leastOverlong) = .error .overlongInteger := by
  have hhalf : (Value.float (Digits.mk 25 (-1)).toBinary64).number? = some (5 / 2) := by decide +kernel
  have hfloat : (Value.float (Digits.mk 5 0).toBinary64).number? = some 5 := by decide +kernel
  have hint : (Value.int 5).number? = some 5 := by decide +kernel
  have hden : (5 / 2 : ℚ).den ≠ 1 := by decide +kernel
  have hlong : (Value.int leastOverlong).isWritable = false := leastOverlong_not_writable
  obtain ⟨cs, hcs, hwritten⟩ := (minutes_writes_number (.float (Digits.mk 25 (-1)).toBinary64) .null).1 _ hhalf rfl
  obtain ⟨hnumber, _, _, hsame⟩ := minutes_writes_number (.float (Digits.mk 5 0).toBinary64) (.int 5)
  obtain ⟨ds, hds, _⟩ := hnumber _ hfloat rfl
  obtain ⟨es, hes, _⟩ := (minutes_writes_number (.int 5) .null).1 _ hint (by decide +kernel)
  have hequal := (hsame _ _ hds hes).mpr (hfloat.trans hint.symm)
  refine ⟨⟨cs, hcs, hwritten.plain_iff.mpr (Or.inr (by norm_num)), hwritten.reads_back hden _ rfl⟩,
    ⟨_, hds, hequal ▸ hes⟩, ?_, ?_⟩
  · exact (minutes_writes_number (.bool true) .null).2.1 rfl rfl
  · exact (minutes_writes_number (.int leastOverlong) .null).2.2.1 hlong

/-- The hundred-thousandth part of a minute. -/
def tinyMinutes : Binary64 := (Digits.mk 1 (-5)).toBinary64

/-- It is a finite number, and its duration has an exponent. -/
theorem tinyMinutes_not_plain :
    tinyMinutes.isFinite = true ∧ minutes (.float tinyMinutes) = .ok (.str "PT1e-05M") ∧
      ∀ cs, minutes (.float tinyMinutes) = .ok (.str (durationText cs)) → ¬ IsPlainDecimal cs := by
  have hinteger : tinyMinutes.integer? = none := by decide +kernel
  have htext : tinyMinutes.text = "1e-05".toList := by decide +kernel
  have hfinite : tinyMinutes.isFinite = true := by decide +kernel
  have hminutes : minutes (.float tinyMinutes) = .ok (.str (durationText "1e-05".toList)) := by
    rw [minutes, if_pos hfinite]
    simp only [hinteger, htext]
  refine ⟨hfinite, hminutes, fun cs hcs hplain => hplain.no_exponent ?_⟩
  rw [hminutes] at hcs
  rw [← eq_of_durationText (Except.ok.inj hcs)]
  decide

end LinkedData
