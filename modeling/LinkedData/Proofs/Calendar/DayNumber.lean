import LinkedData.Proofs.Calendar.Range

/-!
# Days and their numbers

* `Date.Before`: the order of days by year, month and day;
* `Date.dayNumber_lt_iff`: days are numbered in this order, so that no two have one number (`Date.dayNumber_inj`);
* `Date.ofDayNumber?_eq_some_iff`: the day that is found for a number is the one that has it.
-/

namespace LinkedData.Calendar

/-! ### the order of days -/

/-- The year, or else the month, or else the day is an earlier one. -/
def Date.Before (d e : Date) : Prop :=
  d.year < e.year ∨ d.year = e.year ∧ (d.month < e.month ∨ d.month = e.month ∧ d.day < e.day)

namespace Date

variable {d e : Date}

theorem before_or_eq_or_after (d e : Date) : d.Before e ∨ d = e ∨ e.Before d := by
  obtain ⟨year, month, day, _⟩ := d
  obtain ⟨year', month', day', _⟩ := e
  simp only [Before, Date.mk.injEq]
  omega

theorem Before.dayNumber_lt (h : d.Before e) : d.dayNumber < e.dayNumber := by
  rcases h with hyear | ⟨hyear, hmonth | ⟨hmonth, hday⟩⟩
  · have hmono : daysBeforeYear (d.year + 1) ≤ daysBeforeYear e.year := daysBeforeYear_mono hyear
    exact d.dayNumber_of_year.2.trans_lt (hmono.trans_lt e.dayNumber_of_year.1)
  · have hmono : daysBeforeMonth d.year (d.month + 1) ≤ daysBeforeMonth d.year e.month :=
      daysBeforeMonth_mono d.year hmonth
    have hlast := (daysBeforeMonth_lt_of_isDate d.isDate).1
    have hfirst : 1 ≤ e.day := e.isDate.2.2.2.2.1
    rw [dayNumber, dayNumber, ← hyear]
    omega
  · rw [dayNumber, dayNumber, ← hyear, ← hmonth]
    omega

theorem dayNumber_lt_iff : d.dayNumber < e.dayNumber ↔ d.Before e := by
  refine ⟨fun hlt => ?_, Before.dayNumber_lt⟩
  rcases before_or_eq_or_after d e with hbefore | rfl | hafter
  · exact hbefore
  · exact absurd hlt (Nat.lt_irrefl _)
  · exact absurd hlt (Nat.lt_asymm hafter.dayNumber_lt)

theorem dayNumber_inj : d.dayNumber = e.dayNumber ↔ d = e := by
  refine ⟨fun heq => ?_, congrArg dayNumber⟩
  rcases before_or_eq_or_after d e with hbefore | rfl | hafter
  · exact absurd heq (Nat.ne_of_lt hbefore.dayNumber_lt)
  · rfl
  · exact absurd heq.symm (Nat.ne_of_lt hafter.dayNumber_lt)

end Date

/-! ### the day of a number -/

/-- No day is lost where the months of a year are counted off. -/
theorem monthAndDay_sum (year : Nat) {more month n : Nat} (hmonth : 1 ≤ month) :
    daysBeforeMonth year (monthAndDay year more month n).1 + (monthAndDay year more month n).2 =
      daysBeforeMonth year month + n := by
  induction more generalizing month n with
  | zero => rfl
  | succ more ih =>
    rw [monthAndDay]
    split
    · rfl
    · next hlater =>
      rw [ih (Nat.le_add_left 1 month), daysBeforeMonth_succ year hmonth]
      omega

theorem Date.dayNumber_of_ofDayNumber? {n : Int} {d : Date} (h : Date.ofDayNumber? n = some d) :
    (d.dayNumber : Int) = n := by
  rw [ofDayNumber?] at h
  split at h
  · cases h
  · next hpos =>
    dsimp only at h
    obtain ⟨_, hbefore, _⟩ := yearOfDay_spec (show 1 ≤ n.toNat by omega)
    have hsum := @monthAndDay_sum (yearOfDay n.toNat) 11 1 (n.toNat - daysBeforeYear (yearOfDay n.toNat)) (Nat.le_refl 1)
    have hfirst : daysBeforeMonth (yearOfDay n.toNat) 1 = 0 := rfl
    generalize monthAndDay (yearOfDay n.toNat) 11 1 (n.toNat - daysBeforeYear (yearOfDay n.toNat)) = found at h hsum
    obtain ⟨month, day⟩ := found
    dsimp only at h hsum
    rw [Date.of?] at h
    split at h
    · obtain rfl := Option.some.inj h
      show ((daysBeforeYear (yearOfDay n.toNat) + daysBeforeMonth (yearOfDay n.toNat) month + day : Nat) : Int) = n
      omega
    · cases h

/-- The day that is found for a number is the one that has it. -/
theorem Date.ofDayNumber?_eq_some_iff {n : Int} {d : Date} :
    Date.ofDayNumber? n = some d ↔ (d.dayNumber : Int) = n := by
  refine ⟨Date.dayNumber_of_ofDayNumber?, ?_⟩
  rintro rfl
  obtain ⟨hfirst, hlast⟩ := d.dayNumber_bounds
  have hsome : (Date.ofDayNumber? d.dayNumber).isSome = true := Date.ofDayNumber?_isSome_iff.mpr (by omega)
  obtain ⟨e, he⟩ := Option.isSome_iff_exists.mp hsome
  rw [he, Date.dayNumber_inj.mp (Int.natCast_inj.mp (Date.dayNumber_of_ofDayNumber? he))]

end LinkedData.Calendar
