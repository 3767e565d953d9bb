/-!
# Dates of the years 1 to 9999

* `Date`: a day of the calendar that counts leap years backwards before its introduction too;
* `Date.dayNumber`: the days from the first day of year 1, counted from one;
* `Date.ofDayNumber?`: the date with a given day number, if it lies in the years 1 to 9999.
-/

namespace LinkedData.Calendar

/-! ### lengths -/

/-- A year divisible by four, but by a hundred only together with four hundred. -/
def isLeap (year : Nat) : Bool := year % 4 = 0 && (year % 100 ≠ 0 || year % 400 = 0)

/-- The number of days of a month. -/
def daysInMonth (year month : Nat) : Nat :=
  if month = 2 then (if isLeap year then 29 else 28)
  else if month = 4 ∨ month = 6 ∨ month = 9 ∨ month = 11 then 30
  else 31

/-- The number of days before the first day of a year. -/
def daysBeforeYear (year : Nat) : Nat :=
  (year - 1) * 365 + (year - 1) / 4 - (year - 1) / 100 + (year - 1) / 400

/-- The number of days of a year before the first day of a month. -/
def daysBeforeMonth (year month : Nat) : Nat :=
  ((List.range' 1 (month - 1)).map (daysInMonth year)).foldl (· + ·) 0

/-! ### dates -/

/-- The year, month and day name a day of the calendar. -/
def IsDate (year month day : Nat) : Prop :=
  1 ≤ year ∧ year ≤ 9999 ∧ 1 ≤ month ∧ month ≤ 12 ∧ 1 ≤ day ∧ day ≤ daysInMonth year month

instance (year month day : Nat) : Decidable (IsDate year month day) := by
  unfold IsDate; infer_instance

/-- A day of the years 1 to 9999. -/
structure Date where
  year : Nat
  month : Nat
  day : Nat
  isDate : IsDate year month day
deriving DecidableEq

instance : Inhabited Date := ⟨⟨1, 1, 1, by decide⟩⟩

/-- The date of a year, month and day, if they name one. -/
def Date.of? (year month day : Nat) : Option Date :=
  if h : IsDate year month day then some ⟨year, month, day, h⟩ else none

/-- The number of days up to and including `d`, from the first day of year 1. -/
def Date.dayNumber (d : Date) : Nat :=
  daysBeforeYear d.year + daysBeforeMonth d.year d.month + d.day

/-! ### from day numbers -/

/-- The year that the day with number `n` lies in: an estimate from the mean length of a year, mended by one. -/
def yearOfDay (n : Nat) : Nat :=
  let year := (n - 1) * 400 / 146097 + 1
  if n ≤ daysBeforeYear year then year - 1
  else if daysBeforeYear (year + 1) < n then year + 1
  else year

/-- The month and day of the `n`-th day counted from the first of `month`, at most `fuel` months on. -/
def monthAndDay (year : Nat) : Nat → Nat → Nat → Nat × Nat
  | 0, month, n => (month, n)
  | fuel + 1, month, n =>
    if n ≤ daysInMonth year month then (month, n)
    else monthAndDay year fuel (month + 1) (n - daysInMonth year month)

/-- The date with the given day number. -/
def Date.ofDayNumber? (n : Int) : Option Date :=
  if n < 1 then none
  else
    let year := yearOfDay n.toNat
    let (month, day) := monthAndDay year 11 1 (n.toNat - daysBeforeYear year)
    Date.of? year month day

end LinkedData.Calendar
