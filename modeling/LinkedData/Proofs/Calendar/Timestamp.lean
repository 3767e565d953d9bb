import Mathlib.Data.List.Forall2
import LinkedData.Proofs.Calendar.DayNumber
import LinkedData.Proofs.Calendar.Field

/-!
# What timestamps say

* `DateTime.toUtc?_eq_some_iff`: the time in UTC is the one at the same instant;
* `DateTime.stamp`: a time in UTC as a timestamp writes it, and `timestamp?_eq_some_iff`: timestamps are such texts;
* `HasStampForm`, `readStamp?`: what timestamps look like, and the time that one writes;
* `DateTime.readStamp?_stamp`: what was written is read again, without the fraction of a millisecond;
* `DateTime.stamp_lt_iff`: the order of the texts is that of the instants;
* `timestamp_denotes_instant`: timestamps denote the instants that they are written for, to the millisecond.
-/

namespace LinkedData.Calendar

open Numeric

/-! ### times in UTC -/

namespace DateTime

variable {t u v : DateTime}

/-- The time is one in UTC. -/
def IsUtc (u : DateTime) : Prop := u.offset = some Offset.utc

theorem IsUtc.instant_eq (hu : u.IsUtc) :
    u.instant = ((u.date.dayNumber : Int) - 1) * dayLength + u.microsecondOfDay := by
  have hzero : u.offsetSeconds = 0 := by rw [offsetSeconds, hu]; rfl
  rw [instant, hzero, Int.zero_mul, Int.sub_zero]

theorem isUtc_ofDay (d : Date) (n : Nat) : (ofDay d n).IsUtc := rfl

theorem microsecondOfDay_ofDay (d : Date) {n : Nat} (hn : n < dayLength) : (ofDay d n).microsecondOfDay = n := by
  unfold dayLength at hn
  rw [microsecondOfDay, ofDay]
  simp only [Fin.val_ofNat]
  omega

theorem IsUtc.ofDay_eq (hu : u.IsUtc) : ofDay u.date u.microsecondOfDay = u := by
  obtain ⟨d, hour, minute, second, microsecond, offset⟩ := u
  obtain rfl : offset = some Offset.utc := hu
  simp only [ofDay, microsecondOfDay, DateTime.mk.injEq, Fin.ext_iff, Fin.val_ofNat, true_and, and_true]
  omega

/-- The time in UTC is the one at the same instant. -/
theorem toUtc?_eq_some_iff : t.toUtc? = some u ↔ u.IsUtc ∧ u.instant = t.instant := by
  have hrest := Int.emod_nonneg t.instant (show (dayLength : Int) ≠ 0 by decide)
  have hrest' := Int.emod_lt_of_pos t.instant (show (0 : Int) < dayLength by decide)
  have hsplit := Int.mul_ediv_add_emod t.instant dayLength
  rw [toUtc?, Option.map_eq_some_iff]
  constructor
  · rintro ⟨d, hd, rfl⟩
    have hday := Date.ofDayNumber?_eq_some_iff.mp hd
    refine ⟨isUtc_ofDay _ _, ?_⟩
    rw [(isUtc_ofDay _ _).instant_eq, microsecondOfDay_ofDay d (by omega)]
    show ((d.dayNumber : Int) - 1) * dayLength + _ = _
    rw [hday, Int.toNat_of_nonneg hrest, Int.add_sub_cancel, Int.mul_comm]
    exact hsplit
  · rintro ⟨hu, hinstant⟩
    have hlt := u.microsecondOfDay_lt
    rw [hu.instant_eq] at hinstant
    have hday : t.instant / dayLength = u.date.dayNumber - 1 := by unfold dayLength at *; omega
    have hmicrosecond : (t.instant % dayLength).toNat = u.microsecondOfDay := by unfold dayLength at *; omega
    refine ⟨u.date, Date.ofDayNumber?_eq_some_iff.mpr (by omega), ?_⟩
    rw [hmicrosecond, hu.ofDay_eq]

/-! ### their texts -/

/-- A time in UTC to the millisecond. -/
def stamp (u : DateTime) : List Char :=
  u.date.text ++ 'T' :: (clockText u.hour.val u.minute.val u.second.val ++
    '.' :: (padded 3 (u.microsecond.val / 1000) ++ ['Z']))

theorem not_mem_padded {c : Char} (hc : c.isDigit = false) (width n : Nat) : c ∉ padded width n := by
  intro hmem
  rw [areDigits_padded width n c hmem] at hc
  cases hc

/-- The offset stands at the end of the text of a time in UTC, and there only. -/
theorem IsUtc.replaceAll_millisecondText (hu : u.IsUtc) :
    Text.replaceAll "+00:00".toList ['Z'] u.millisecondText = u.stamp := by
  have hoffset : u.offset = some Offset.utc := hu
  have htext : Offset.text Offset.utc = '+' :: "00:00".toList := by decide
  have hmark : "+00:00".toList = '+' :: "00:00".toList := by decide
  have hplus : '+' ∉ u.date.text ++ 'T' :: clockText u.hour.val u.minute.val u.second.val ++
      '.' :: padded 3 (u.microsecond.val / 1000) := by
    have hdigits : ∀ width n, '+' ∉ padded width n := not_mem_padded rfl
    simp [Date.text, clockText, hdigits]
  rw [millisecondText, textWith, hoffset, hmark]
  simp only [htext]
  rw [Text.replaceAll_append hplus, Text.replaceAll_self, stamp]
  simp only [List.append_assoc, List.cons_append]

end DateTime

theorem timestamp?_eq_some_iff {t : DateTime} {cs : List Char} :
    timestamp? t = some cs ↔ ∃ u : DateTime, u.IsUtc ∧ u.instant = t.instant ∧ u.stamp = cs := by
  rw [timestamp?, Option.map_eq_some_iff]
  constructor
  · rintro ⟨u, hu, rfl⟩
    obtain ⟨hutc, hinstant⟩ := DateTime.toUtc?_eq_some_iff.mp hu
    exact ⟨u, hutc, hinstant, hutc.replaceAll_millisecondText.symm⟩
  · rintro ⟨u, hutc, hinstant, rfl⟩
    exact ⟨u, DateTime.toUtc?_eq_some_iff.mpr ⟨hutc, hinstant⟩, hutc.replaceAll_millisecondText⟩

/-! ### forms -/

theorem daysInMonth_le (year month : Nat) : daysInMonth year month ≤ 31 := by
  unfold daysInMonth
  split
  · split <;> decide
  · split <;> decide

/-- The fields of a date have room. -/
theorem Date.fields_lt (d : Date) : d.year < 10 ^ 4 ∧ d.month < 10 ^ 2 ∧ d.day < 10 ^ 2 := by
  obtain ⟨_, hyear, _, hmonth, _, hday⟩ := d.isDate
  have hlast := daysInMonth_le d.year d.month
  omega

/-- A character is a digit where a form has a zero, and else the one that the form has. -/
def Fits (form c : Char) : Prop := if form = '0' then c.isDigit = true else c = form

/-- What all timestamps look like. -/
def stampForm : List Char := "0000-00-00T00:00:00.000Z".toList

/-- The text has the form of timestamps. -/
def HasStampForm (cs : List Char) : Prop := List.Forall₂ Fits stampForm cs

theorem fits_digits {ds : List Char} (hds : AreDigits ds) : List.Forall₂ Fits (List.replicate ds.length '0') ds := by
  induction ds with
  | nil => exact List.Forall₂.nil
  | cons c ds ih =>
    obtain ⟨hc, hmore⟩ := List.forall_mem_cons.mp hds
    exact List.Forall₂.cons ((if_pos rfl).mpr hc) (ih hmore)

theorem fits_padded {width n : Nat} (hwidth : 0 < width) (hn : n < 10 ^ width) :
    List.Forall₂ Fits (List.replicate width '0') (padded width n) := by
  have hfits := fits_digits (areDigits_padded width n)
  rwa [length_padded hwidth hn] at hfits

theorem fits_self {c : Char} (hc : c ≠ '0') : Fits c c := (if_neg hc).mpr rfl

theorem fits_append {as bs cs ds : List Char} (h : List.Forall₂ Fits as cs) (h' : List.Forall₂ Fits bs ds) :
    List.Forall₂ Fits (as ++ bs) (cs ++ ds) := List.rel_append h h'

theorem fits_clockText {hour minute second : Nat} (hhour : hour < 24) (hminute : minute < 60) (hsecond : second < 60) :
    List.Forall₂ Fits "00:00:00".toList (clockText hour minute second) := by
  have hfield : ∀ n < 10 ^ 2, List.Forall₂ Fits ['0', '0'] (padded 2 n) := fun n hn => fits_padded Nat.two_pos hn
  have hcolon : Fits ':' ':' := fits_self (by decide)
  exact fits_append
    (fits_append (hfield hour (by omega)) (List.Forall₂.cons hcolon (hfield minute (by omega))))
    (List.Forall₂.cons hcolon (hfield second (by omega)))

theorem Date.fits_text (d : Date) : List.Forall₂ Fits "0000-00-00".toList d.text := by
  obtain ⟨hyear, hmonth, hday⟩ := d.fields_lt
  have hdash : Fits '-' '-' := fits_self (by decide)
  exact fits_append
    (fits_append (fits_padded (by decide) hyear) (List.Forall₂.cons hdash (fits_padded Nat.two_pos hmonth)))
    (List.Forall₂.cons hdash (fits_padded Nat.two_pos hday))

theorem DateTime.hasStampForm_stamp (u : DateTime) : HasStampForm u.stamp := by
  have hmillisecond : u.microsecond.val / 1000 < 10 ^ 3 := by omega
  have hform : stampForm = "0000-00-00".toList ++ 'T' :: ("00:00:00".toList ++ '.' :: (['0', '0', '0'] ++ ['Z'])) := by
    decide
  rw [HasStampForm, hform]
  refine fits_append u.date.fits_text (List.Forall₂.cons (fits_self (by decide)) ?_)
  refine fits_append (fits_clockText u.hour.isLt u.minute.isLt u.second.isLt)
    (List.Forall₂.cons (fits_self (by decide)) ?_)
  exact fits_append (fits_padded (by decide) hmillisecond)
    (List.Forall₂.cons (fits_self (by decide)) List.Forall₂.nil)

theorem DateTime.stamp_head (u : DateTime) : ∃ c cs, u.stamp = c :: cs ∧ c.isDigit = true := by
  have hform := u.hasStampForm_stamp
  have hzero : stampForm = '0' :: stampForm.tail := by decide
  rw [HasStampForm, hzero] at hform
  cases hstamp : u.stamp with
  | nil =>
    rw [hstamp] at hform
    cases hform
  | cons c cs =>
    rw [hstamp] at hform
    obtain ⟨hc, _⟩ := List.forall₂_cons.mp hform
    exact ⟨c, cs, rfl, (if_pos rfl).mp hc⟩

/-! ### reading -/

/-- The time that a text of the form of timestamps writes; there is none if the date is not one of the calendar. -/
def readStamp? (cs : List Char) : Option DateTime := do
  let (date, cs) ← readDate? cs
  let cs ← expect? 'T' cs
  let (hour, cs) ← readField? 2 cs
  let cs ← expect? ':' cs
  let (minute, cs) ← readField? 2 cs
  let cs ← expect? ':' cs
  let (second, cs) ← readField? 2 cs
  let cs ← expect? '.' cs
  let (millisecond, cs) ← readField? 3 cs
  if cs = ['Z'] then DateTime.of? date hour minute second (millisecond * 1000) (some Offset.utc) else none

theorem Date.of?_self (d : Date) : Date.of? d.year d.month d.day = some d := dif_pos d.isDate

/-- A date is read again, whatever follows it. -/
theorem readDate?_text (d : Date) (rest : List Char) : readDate? (d.text ++ rest) = some (d, rest) := by
  obtain ⟨hyear, hmonth, hday⟩ := d.fields_lt
  rw [Date.text, List.append_assoc, List.append_assoc, List.cons_append, List.cons_append, readDate?]
  simp only [readField?_padded (show 0 < 4 by decide) hyear, readField?_padded Nat.two_pos hmonth,
    readField?_padded Nat.two_pos hday, expect?_self, Option.bind_eq_bind, Option.bind_some, Date.of?_self]
  rfl

namespace DateTime

variable {t u v : DateTime}

/-- A time without the fraction of a millisecond. -/
def cutToMillisecond (u : DateTime) : DateTime :=
  { u with microsecond := ⟨u.microsecond.val / 1000 * 1000, by omega⟩ }

theorem instant_cutToMillisecond (u : DateTime) : u.cutToMillisecond.instant = u.instant / 1000 * 1000 := by
  show ((u.date.dayNumber : Int) - 1) * dayLength + u.cutToMillisecond.microsecondOfDay - u.offsetSeconds * 1000000 =
    (((u.date.dayNumber : Int) - 1) * dayLength + u.microsecondOfDay - u.offsetSeconds * 1000000) / 1000 * 1000
  unfold microsecondOfDay cutToMillisecond dayLength
  dsimp only
  push_cast
  omega

/-- What was written is read again, without the fraction of a millisecond. -/
theorem IsUtc.readStamp?_stamp (hu : u.IsUtc) : readStamp? u.stamp = some u.cutToMillisecond := by
  have hhour : u.hour.val < 10 ^ 2 := by omega
  have hminute : u.minute.val < 10 ^ 2 := by omega
  have hsecond : u.second.val < 10 ^ 2 := by omega
  have hmillisecond : u.microsecond.val / 1000 < 10 ^ 3 := by omega
  have hthree : 0 < 3 := by decide
  rw [stamp, clockText, readStamp?]
  simp only [readDate?_text, List.append_assoc, List.cons_append, expect?_self, readField?_padded Nat.two_pos hhour,
    readField?_padded Nat.two_pos hminute, readField?_padded Nat.two_pos hsecond,
    readField?_padded hthree hmillisecond, Option.bind_eq_bind, Option.bind_some, if_true]
  obtain ⟨d, hour, minute, second, microsecond, offset⟩ := u
  obtain rfl : offset = some Offset.utc := hu
  exact dif_pos ⟨hour.isLt, minute.isLt, second.isLt, by omega⟩

/-! ### orders -/

theorem IsUtc.eq_of_instant (hu : u.IsUtc) (hv : v.IsUtc) (h : u.instant = v.instant) : u = v := by
  have hself : v.toUtc? = some v := toUtc?_eq_some_iff.mpr ⟨hv, rfl⟩
  exact Option.some.inj ((toUtc?_eq_some_iff.mpr ⟨hu, h⟩).symm.trans hself)

theorem stamp_cutToMillisecond (u : DateTime) : u.cutToMillisecond.stamp = u.stamp := by
  have hcut : u.microsecond.val / 1000 * 1000 / 1000 = u.microsecond.val / 1000 := Nat.mul_div_cancel _ (by decide)
  rw [stamp, stamp, cutToMillisecond]
  simp only [hcut]

/-- Times in UTC have the same timestamp if they are in the same millisecond. -/
theorem IsUtc.stamp_inj (hu : u.IsUtc) (hv : v.IsUtc) :
    u.stamp = v.stamp ↔ u.instant / 1000 = v.instant / 1000 := by
  constructor
  · intro h
    have hread : u.cutToMillisecond = v.cutToMillisecond :=
      Option.some.inj (hu.readStamp?_stamp.symm.trans ((congrArg readStamp? h).trans hv.readStamp?_stamp))
    have hinstant := congrArg instant hread
    rw [instant_cutToMillisecond, instant_cutToMillisecond] at hinstant
    omega
  · intro h
    have hcut : u.cutToMillisecond = v.cutToMillisecond := by
      refine IsUtc.eq_of_instant hu hv ?_
      rw [instant_cutToMillisecond, instant_cutToMillisecond, h]
    rw [← stamp_cutToMillisecond, hcut, stamp_cutToMillisecond]

end DateTime

namespace Date

variable {d e : Date}

theorem text_inj : d.text = e.text ↔ d = e := by
  refine ⟨fun h => ?_, congrArg Date.text⟩
  have hread : some (d, ([] : List Char)) = some (e, []) := by
    rw [← readDate?_text d [], ← readDate?_text e [], h]
  exact congrArg Prod.fst (Option.some.inj hread)

theorem text_lt_iff : d.text < e.text ↔ d.Before e := by
  obtain ⟨hyear, hmonth, hday⟩ := d.fields_lt
  obtain ⟨hyear', hmonth', hday'⟩ := e.fields_lt
  simp only [Date.text, List.append_assoc, List.cons_append]
  rw [padded_append_lt_iff (by decide) hyear hyear', padded_append_lt_iff Nat.two_pos hmonth hmonth',
    padded_lt_padded_iff Nat.two_pos hday hday', Before]

end Date

namespace DateTime

variable {u v : DateTime}

/-- Times of a day are ordered as they are written. -/
theorem clock_lt_iff (u v : DateTime) :
    clockText u.hour.val u.minute.val u.second.val ++ '.' :: (padded 3 (u.microsecond.val / 1000) ++ ['Z']) <
      clockText v.hour.val v.minute.val v.second.val ++ '.' :: (padded 3 (v.microsecond.val / 1000) ++ ['Z']) ↔
    u.microsecondOfDay / 1000 < v.microsecondOfDay / 1000 := by
  have htwo : ∀ n < 60, n < 10 ^ 2 := by omega
  have hthree : ∀ n : Fin 1000000, n.val / 1000 < 10 ^ 3 := by omega
  simp only [clockText, List.append_assoc, List.cons_append]
  rw [padded_append_lt_iff Nat.two_pos (htwo _ (by omega)) (htwo _ (by omega)),
    padded_append_lt_iff Nat.two_pos (htwo _ u.minute.isLt) (htwo _ v.minute.isLt),
    padded_append_lt_iff Nat.two_pos (htwo _ u.second.isLt) (htwo _ v.second.isLt),
    padded_append_lt_iff (by decide) (hthree u.microsecond) (hthree v.microsecond)]
  have hnil : ¬ ([] : List Char) < [] := List.not_lt_nil _
  simp only [hnil, and_false, or_false, microsecondOfDay]
  omega

/-- Timestamps are in the order of the instants that they are written for, cut to milliseconds. -/
theorem IsUtc.stamp_lt_iff (hu : u.IsUtc) (hv : v.IsUtc) :
    u.stamp < v.stamp ↔ u.instant / 1000 < v.instant / 1000 := by
  have hlength : u.date.text.length = v.date.text.length :=
    u.date.fits_text.length_eq.symm.trans v.date.fits_text.length_eq
  have hmark : ¬ 'T' < 'T' := Char.lt_irrefl _
  have hday := u.microsecondOfDay_lt
  have hday' := v.microsecondOfDay_lt
  rw [stamp, stamp, append_lt_append_iff hlength, Date.text_lt_iff, Date.text_inj, List.cons_lt_cons_iff, clock_lt_iff,
    ← Date.dayNumber_lt_iff, ← Date.dayNumber_inj, hu.instant_eq, hv.instant_eq]
  simp only [hmark, true_and, false_or]
  unfold dayLength at *
  omega

end DateTime

/-! ### timestamps -/

/-- **Timestamps denote instants.** A moment has a timestamp just if it is a time in UTC of one of the years 1 to 9999.
The timestamp has fields of fixed widths and writes a date of the calendar, and the time that it writes is the moment,
cut to a millisecond. So moments at one instant have the same timestamp whatever their offsets are, and timestamps are
ordered as texts just as their moments are, cut to milliseconds. The timestamp of a day writes its midnight. -/
theorem timestamp_denotes_instant (t : DateTime) :
    ((timestamp? t).isSome = true ↔ ∃ u : DateTime, u.IsUtc ∧ u.instant = t.instant) ∧
      (∀ cs, timestamp? t = some cs → HasStampForm cs ∧
        ∃ u, readStamp? cs = some u ∧ u.IsUtc ∧ u.instant = t.instant / 1000 * 1000) ∧
      (∀ s : DateTime, s.instant = t.instant → timestamp? s = timestamp? t) ∧
      (∀ s cs ds, timestamp? s = some cs → timestamp? t = some ds →
        (cs < ds ↔ s.instant / 1000 < t.instant / 1000) ∧ (cs = ds ↔ s.instant / 1000 = t.instant / 1000)) ∧
      ∀ d : Date, ∃ cs, timestamp? d.midnight = some cs ∧ readStamp? cs = some d.midnight := by
  refine ⟨?_, ?_, ?_, ?_, ?_⟩
  · rw [Option.isSome_iff_exists]
    constructor
    · rintro ⟨cs, hcs⟩
      obtain ⟨u, hu, hinstant, _⟩ := timestamp?_eq_some_iff.mp hcs
      exact ⟨u, hu, hinstant⟩
    · rintro ⟨u, hu, hinstant⟩
      exact ⟨u.stamp, timestamp?_eq_some_iff.mpr ⟨u, hu, hinstant, rfl⟩⟩
  · intro cs hcs
    obtain ⟨u, hu, hinstant, rfl⟩ := timestamp?_eq_some_iff.mp hcs
    refine ⟨u.hasStampForm_stamp, u.cutToMillisecond, hu.readStamp?_stamp, hu, ?_⟩
    rw [DateTime.instant_cutToMillisecond, hinstant]
  · intro s hs
    rw [timestamp?, timestamp?, DateTime.toUtc?, DateTime.toUtc?, hs]
  · intro s cs ds hcs hds
    obtain ⟨u, hu, hinstant, rfl⟩ := timestamp?_eq_some_iff.mp hcs
    obtain ⟨v, hv, hinstant', rfl⟩ := timestamp?_eq_some_iff.mp hds
    rw [← hinstant, ← hinstant']
    exact ⟨hu.stamp_lt_iff hv, hu.stamp_inj hv⟩
  · intro d
    have hutc : d.midnight.IsUtc := rfl
    refine ⟨d.midnight.stamp, timestamp?_eq_some_iff.mpr ⟨d.midnight, hutc, rfl, rfl⟩, ?_⟩
    rw [hutc.readStamp?_stamp, DateTime.cutToMillisecond]
    simp [Date.midnight]

/-- Half an hour after midnight on a first of March, at an offset that puts it on a leap day. -/
def firstOfMarch : DateTime :=
  ((Date.of? 2024 3 1).bind fun d => DateTime.of? d 0 30 15 999 (Offset.of? 7200)).getD default

/-- A millisecond earlier, behind UTC. -/
def leapDay : DateTime :=
  ((Date.of? 2024 2 29).bind fun d => DateTime.of? d 17 0 13 999999 (Offset.of? (-19801))).getD default

theorem firstOfMarch_denotes_instant :
    timestamp? firstOfMarch = some "2024-02-29T22:30:15.000Z".toList ∧
      (∃ u, readStamp? "2024-02-29T22:30:15.000Z".toList = some u ∧ u.IsUtc ∧
        u.instant = firstOfMarch.instant / 1000 * 1000) ∧
      timestamp? leapDay = some "2024-02-29T22:30:14.999Z".toList ∧
      ("2024-02-29T22:30:14.999Z".toList < "2024-02-29T22:30:15.000Z".toList ↔
        leapDay.instant / 1000 < firstOfMarch.instant / 1000) := by
  have hlater : timestamp? firstOfMarch = some "2024-02-29T22:30:15.000Z".toList := by decide +kernel
  have hearlier : timestamp? leapDay = some "2024-02-29T22:30:14.999Z".toList := by decide +kernel
  obtain ⟨_, hread, _, horder, _⟩ := timestamp_denotes_instant firstOfMarch
  exact ⟨hlater, (hread _ hlater).2, hearlier, (horder leapDay _ _ hearlier hlater).1⟩

end LinkedData.Calendar
