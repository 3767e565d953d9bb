import Mathlib.Order.Monotone.Basic
import LinkedData.Calendar.Timestamp

/-!
# Which moments have a timestamp

* `Date.ofDayNumber?_isSome_iff`: the days of the years 1 to 9999 are those with the numbers 1 to `lastDay`;
* `DateTime.OutsideCalendar`: a moment that is no moment of these days in UTC;
* `timestamp?_eq_none_iff`: such moments and no others have no timestamp;
* `DateTime.offset_of_outsideCalendar`: a time without an offset is never one of them.
-/

namespace LinkedData.Calendar

/-! ### days of a year -/

/-- The number of days of a year. -/
def daysInYear (year : Nat) : Nat := if isLeap year then 366 else 365

/-- The number of the last day of year 9999. -/
def lastDay : Nat := 3652059

theorem isLeap_iff {year : Nat} : isLeap year = true ↔ year % 4 = 0 ∧ (year % 100 ≠ 0 ∨ year % 400 = 0) := by
  simp only [isLeap, Bool.and_eq_true, Bool.or_eq_true, decide_eq_true_eq]

theorem daysBeforeYear_succ {year : Nat} (hyear : 1 ≤ year) :
    daysBeforeYear (year + 1) = daysBeforeYear year + daysInYear year := by
  obtain ⟨m, rfl⟩ := Nat.exists_eq_add_of_le' hyear
  have hle : m / 100 ≤ m / 4 := by omega
  rw [daysBeforeYear, daysBeforeYear, Nat.add_sub_cancel, Nat.add_sub_cancel, daysInYear]
  -- the year is the last one of as many fours, hundreds and four hundreds as it is divisible by
  split
  · next h =>
    obtain ⟨h4, h100 | h400⟩ := isLeap_iff.mp h
    · have hfour : (m + 1) / 4 = m / 4 + 1 := by omega
      have hhundred : (m + 1) / 100 = m / 100 := by omega
      have hfourHundred : (m + 1) / 400 = m / 400 := by omega
      omega
    · have hfour : (m + 1) / 4 = m / 4 + 1 := by omega
      have hhundred : (m + 1) / 100 = m / 100 + 1 := by omega
      have hfourHundred : (m + 1) / 400 = m / 400 + 1 := by omega
      omega
  · next h =>
    rw [isLeap_iff, Classical.not_and_iff_not_or_not, not_or, not_not] at h
    rcases h with h4 | ⟨h100, h400⟩
    · have hfour : (m + 1) / 4 = m / 4 := by omega
      have hhundred : (m + 1) / 100 = m / 100 := by omega
      have hfourHundred : (m + 1) / 400 = m / 400 := by omega
      omega
    · have hfour : (m + 1) / 4 = m / 4 + 1 := by omega
      have hhundred : (m + 1) / 100 = m / 100 + 1 := by omega
      have hfourHundred : (m + 1) / 400 = m / 400 := by omega
      omega

theorem daysBeforeYear_mono : Monotone daysBeforeYear := by
  refine monotone_nat_of_le_succ fun year => ?_
  cases year with
  | zero => exact Nat.le_refl 0
  | succ m =>
    rw [daysBeforeYear_succ (Nat.le_add_left 1 m)]
    exact Nat.le_add_right _ _

/-- The days before a year are those of as many years of mean length, up to two. -/
theorem daysBeforeYear_bounds (m : Nat) :
    146097 * m ≤ 400 * daysBeforeYear (m + 1) + 699 ∧ 400 * daysBeforeYear (m + 1) ≤ 146097 * m + 396 := by
  rw [daysBeforeYear, Nat.add_sub_cancel]
  omega

/-- A day lies in the year that is estimated from the mean length of a year, or in a neighbour of it. -/
theorem yearOfDay_spec {n : Nat} (hn : 1 ≤ n) :
    1 ≤ yearOfDay n ∧ daysBeforeYear (yearOfDay n) < n ∧ n ≤ daysBeforeYear (yearOfDay n + 1) := by
  have hfirst : daysBeforeYear 1 = 0 := rfl
  have hestimate := Nat.div_add_mod ((n - 1) * 400) 146097
  have hrest := Nat.mod_lt ((n - 1) * 400) (show 0 < 146097 by decide)
  rw [yearOfDay]
  generalize (n - 1) * 400 / 146097 = m at *
  generalize (n - 1) * 400 % 146097 = rest at *
  have hbefore := daysBeforeYear_bounds m
  have hafter := daysBeforeYear_bounds (m + 1)
  have hlater := daysBeforeYear_bounds (m + 1 + 1)
  split
  · next hearly =>
    cases m with
    | zero => omega
    | succ m =>
      have hearlier := daysBeforeYear_bounds m
      rw [Nat.add_sub_cancel]
      exact ⟨Nat.le_add_left 1 m, by omega, by omega⟩
  · split
    · next hlate => exact ⟨by omega, hlate, by omega⟩
    · next hfits => exact ⟨by omega, by omega, by omega⟩

theorem yearOfDay_le_iff {n : Nat} (hn : 1 ≤ n) : yearOfDay n ≤ 9999 ↔ n ≤ lastDay := by
  obtain ⟨_, hbefore, hafter⟩ := yearOfDay_spec hn
  have hlast : daysBeforeYear (9999 + 1) = lastDay := by decide +kernel
  constructor
  · intro h
    have hmono := daysBeforeYear_mono (Nat.succ_le_succ h)
    exact hlast ▸ hafter.trans hmono
  · intro h
    by_contra hlater
    have hmono := daysBeforeYear_mono (show 9999 + 1 ≤ yearOfDay n by omega)
    omega

/-! ### days of a month -/

theorem daysBeforeMonth_succ (year : Nat) {month : Nat} (hmonth : 1 ≤ month) :
    daysBeforeMonth year (month + 1) = daysBeforeMonth year month + daysInMonth year month := by
  obtain ⟨m, rfl⟩ := Nat.exists_eq_add_of_le' hmonth
  rw [daysBeforeMonth, daysBeforeMonth, Nat.add_sub_cancel, Nat.add_sub_cancel, List.range'_concat, List.map_append,
    List.foldl_append, List.map_singleton, List.foldl_cons, List.foldl_nil, Nat.one_mul, Nat.add_comm 1 m]

theorem daysBeforeMonth_mono (year : Nat) : Monotone (daysBeforeMonth year) := by
  refine monotone_nat_of_le_succ fun month => ?_
  cases month with
  | zero => exact Nat.le_refl 0
  | succ m =>
    rw [daysBeforeMonth_succ year (Nat.le_add_left 1 m)]
    exact Nat.le_add_right _ _

/-- The months of a year have all of its days. -/
theorem daysBeforeMonth_end (year : Nat) : daysBeforeMonth year (12 + 1) = daysInYear year := by
  cases hleap : isLeap year with
  | true => simp [daysBeforeMonth, daysInMonth, daysInYear, hleap, List.range']
  | false => simp [daysBeforeMonth, daysInMonth, daysInYear, hleap, List.range']

/-- A day of several months lies in one of them. -/
theorem monthAndDay_spec {year more month n : Nat} (hmonth : 1 ≤ month) (hn : 1 ≤ n)
    (hdays : daysBeforeMonth year month + n ≤ daysBeforeMonth year (month + more + 1)) :
    month ≤ (monthAndDay year more month n).1 ∧ (monthAndDay year more month n).1 ≤ month + more ∧
      1 ≤ (monthAndDay year more month n).2 ∧
      (monthAndDay year more month n).2 ≤ daysInMonth year (monthAndDay year more month n).1 := by
  induction more generalizing month n with
  | zero =>
    rw [Nat.add_zero, daysBeforeMonth_succ year hmonth] at hdays
    exact ⟨Nat.le_refl month, Nat.le_refl month, hn, Nat.le_of_add_le_add_left hdays⟩
  | succ more ih =>
    rw [monthAndDay]
    split
    · next hfits => exact ⟨Nat.le_refl month, Nat.le_add_right month _, hn, hfits⟩
    · next hlater =>
      have hnext := daysBeforeMonth_succ year hmonth
      have hrest : daysBeforeMonth year (month + 1) + (n - daysInMonth year month) ≤
          daysBeforeMonth year (month + 1 + more + 1) := by
        rw [Nat.add_right_comm month 1 more, Nat.add_assoc month more 1]
        omega
      obtain ⟨hfirst, hlast, hday, hday'⟩ := ih (Nat.le_add_left 1 month) (by omega) hrest
      exact ⟨by omega, by omega, hday, hday'⟩

/-! ### days of the calendar -/

theorem Date.of?_isSome_iff {year month day : Nat} :
    (Date.of? year month day).isSome = true ↔ IsDate year month day := by
  rw [Date.of?]
  split
  · next h => exact iff_of_true rfl h
  · next h => exact iff_of_false Bool.false_ne_true h

/-- The days of the years 1 to 9999 are those from the first to the last one. -/
theorem Date.ofDayNumber?_isSome_iff {n : Int} : (Date.ofDayNumber? n).isSome = true ↔ 1 ≤ n ∧ n ≤ lastDay := by
  rw [Date.ofDayNumber?]
  split
  · next h => exact iff_of_false (fun h => nomatch h) fun hrange => by omega
  · next h =>
    obtain ⟨k, rfl⟩ := Int.eq_ofNat_of_zero_le (show 0 ≤ n by omega)
    have hk : 1 ≤ k := by omega
    obtain ⟨hyear, hbefore, hafter⟩ := yearOfDay_spec hk
    rw [daysBeforeYear_succ hyear] at hafter
    have hfirst : daysBeforeMonth (yearOfDay k) 1 = 0 := rfl
    have hend : daysBeforeMonth (yearOfDay k) (1 + 11 + 1) = daysInYear (yearOfDay k) := daysBeforeMonth_end _
    obtain ⟨hmonth, hmonth', hday, hday'⟩ :=
      @monthAndDay_spec (yearOfDay k) 11 1 (k - daysBeforeYear (yearOfDay k)) (Nat.le_refl 1) (by omega) (by omega)
    simp only [Int.toNat_natCast]
    generalize monthAndDay (yearOfDay k) 11 1 (k - daysBeforeYear (yearOfDay k)) = found at *
    obtain ⟨month, day⟩ := found
    show (Date.of? (yearOfDay k) month day).isSome = true ↔ _
    have hyear' := yearOfDay_le_iff hk
    rw [Date.of?_isSome_iff]
    constructor
    · rintro ⟨_, hlast, _⟩
      have hn := hyear'.mp hlast
      omega
    · rintro ⟨_, hn⟩
      exact ⟨hyear, hyear'.mpr (by omega), hmonth, hmonth', hday, hday'⟩

/-- A day of a month is one of the days of its year. -/
theorem daysBeforeMonth_lt_of_isDate {year month day : Nat} (h : IsDate year month day) :
    daysBeforeMonth year month + day ≤ daysBeforeMonth year (month + 1) ∧
      daysBeforeMonth year (month + 1) ≤ daysInYear year := by
  obtain ⟨_, _, hmonth, hmonth', _, hday⟩ := h
  rw [← daysBeforeMonth_end year]
  refine ⟨?_, daysBeforeMonth_mono year (Nat.succ_le_succ hmonth')⟩
  rw [daysBeforeMonth_succ year hmonth]
  exact Nat.add_le_add_left hday _

/-- The number of a day lies between those of the first and the last day of its year. -/
theorem Date.dayNumber_of_year (d : Date) :
    daysBeforeYear d.year < d.dayNumber ∧ d.dayNumber ≤ daysBeforeYear (d.year + 1) := by
  obtain ⟨hmonth, hyear⟩ := daysBeforeMonth_lt_of_isDate d.isDate
  have hday : 1 ≤ d.day := d.isDate.2.2.2.2.1
  rw [daysBeforeYear_succ d.isDate.1, Date.dayNumber]
  omega

theorem Date.dayNumber_bounds (d : Date) : 1 ≤ d.dayNumber ∧ d.dayNumber ≤ lastDay := by
  obtain ⟨hfirst, hlast⟩ := d.dayNumber_of_year
  have hend : daysBeforeYear (9999 + 1) = lastDay := by decide +kernel
  have hmono : daysBeforeYear (d.year + 1) ≤ daysBeforeYear (9999 + 1) :=
    daysBeforeYear_mono (Nat.succ_le_succ d.isDate.2.1)
  exact ⟨Nat.one_le_of_lt hfirst, hlast.trans (hend ▸ hmono)⟩

/-! ### moments -/

namespace DateTime

/-- The moment is before the first day of year 1 in UTC or after the last day of year 9999. -/
def OutsideCalendar (t : DateTime) : Prop := t.instant < 0 ∨ (lastDay * dayLength : Int) ≤ t.instant

instance (t : DateTime) : Decidable t.OutsideCalendar := inferInstanceAs (Decidable (_ ∨ _))

theorem microsecondOfDay_lt (t : DateTime) : t.microsecondOfDay < dayLength := by
  have hhour := t.hour.isLt
  have hminute := t.minute.isLt
  have hsecond := t.second.isLt
  have hmicrosecond := t.microsecond.isLt
  unfold microsecondOfDay dayLength
  omega

/-- A time is outside of the calendar only by its offset. -/
theorem offset_of_outsideCalendar {t : DateTime} (h : t.OutsideCalendar) : t.offsetSeconds ≠ 0 := by
  intro hoffset
  obtain ⟨hfirst, hlast⟩ := t.date.dayNumber_bounds
  have hday := t.microsecondOfDay_lt
  rw [OutsideCalendar, instant, hoffset] at h
  unfold lastDay at hlast h
  unfold dayLength at hday h
  omega

end DateTime

/-- The moments outside of the calendar have no time in UTC, and all others have one. -/
theorem DateTime.toUtc?_eq_none_iff {t : DateTime} : t.toUtc? = none ↔ t.OutsideCalendar := by
  rw [DateTime.toUtc?, Option.map_eq_none_iff, ← Option.not_isSome_iff_eq_none, Date.ofDayNumber?_isSome_iff,
    DateTime.OutsideCalendar]
  unfold lastDay DateTime.dayLength
  omega

/-- The moments outside of the calendar have no timestamp, and all others have one. -/
theorem timestamp?_eq_none_iff {t : DateTime} : timestamp? t = none ↔ t.OutsideCalendar := by
  rw [timestamp?, Option.map_eq_none_iff, DateTime.toUtc?_eq_none_iff]

/-- A day has a timestamp. -/
theorem timestamp?_midnight_ne_none (d : Date) : timestamp? d.midnight ≠ none := by
  intro h
  exact DateTime.offset_of_outsideCalendar (timestamp?_eq_none_iff.mp h) rfl

end LinkedData.Calendar
