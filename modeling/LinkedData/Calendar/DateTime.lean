import LinkedData.Calendar.Date

/-!
# Times of a day, with or without an offset from UTC

* `Time`: a time of the day to the microsecond;
* `DateTime`: a date, a time of the day and, if known, an offset;
* `DateTime.instant`: the moment it denotes, in microseconds;
* `DateTime.sameMoment`: two times with offsets are the same if their instants are, two without if they read alike;
* `DateTime.toUtc?`: the time in UTC at the same instant, if it lies in the years 1 to 9999.
-/

namespace LinkedData.Calendar

/-- An offset from UTC in seconds, less than a day either way. -/
abbrev Offset := { seconds : Int // -86400 < seconds ∧ seconds < 86400 }

/-- The offset of so many seconds. -/
def Offset.of? (seconds : Int) : Option Offset :=
  if h : -86400 < seconds ∧ seconds < 86400 then some ⟨seconds, h⟩ else none

/-- The offset of UTC itself. -/
def Offset.utc : Offset := ⟨0, by decide⟩

/-- A time of whatever day. -/
structure Time where
  hour : Fin 24
  minute : Fin 60
  second : Fin 60
  microsecond : Fin 1000000
deriving DecidableEq, Inhabited

/-- The time of an hour, minute, second and microsecond, if they are in range. -/
def Time.of? (hour minute second microsecond : Nat) : Option Time :=
  if h : hour < 24 ∧ minute < 60 ∧ second < 60 ∧ microsecond < 1000000 then
    some ⟨⟨hour, h.1⟩, ⟨minute, h.2.1⟩, ⟨second, h.2.2.1⟩, ⟨microsecond, h.2.2.2⟩⟩
  else none

/-- A time of a day; without an offset it is taken as UTC. -/
structure DateTime where
  date : Date
  hour : Fin 24
  minute : Fin 60
  second : Fin 60
  microsecond : Fin 1000000
  offset : Option Offset
deriving DecidableEq, Inhabited

/-- The time of a date, hour, minute, second and microsecond, if they are in range. -/
def DateTime.of? (date : Date) (hour minute second microsecond : Nat) (offset : Option Offset) : Option DateTime :=
  if h : hour < 24 ∧ minute < 60 ∧ second < 60 ∧ microsecond < 1000000 then
    some ⟨date, ⟨hour, h.1⟩, ⟨minute, h.2.1⟩, ⟨second, h.2.2.1⟩, ⟨microsecond, h.2.2.2⟩, offset⟩
  else none

/-- A time of the day on a date. -/
def Date.at (d : Date) (t : Time) (offset : Option Offset) : DateTime :=
  ⟨d, t.hour, t.minute, t.second, t.microsecond, offset⟩

/-- The beginning of a day in UTC. -/
def Date.midnight (d : Date) : DateTime :=
  ⟨d, ⟨0, by decide⟩, ⟨0, by decide⟩, ⟨0, by decide⟩, ⟨0, by decide⟩, some ⟨0, by decide⟩⟩

namespace DateTime

/-- The microseconds since the beginning of the day. -/
def microsecondOfDay (t : DateTime) : Nat :=
  ((t.hour.val * 60 + t.minute.val) * 60 + t.second.val) * 1000000 + t.microsecond.val

/-- The seconds by which the clock of `t` is ahead of UTC. -/
def offsetSeconds (t : DateTime) : Int := (t.offset.map Subtype.val).getD 0

/-- The microseconds in a day. -/
abbrev dayLength : Nat := 86400000000

/-- The microseconds from the beginning of year 1 in UTC to `t`. -/
def instant (t : DateTime) : Int :=
  ((t.date.dayNumber : Int) - 1) * dayLength + t.microsecondOfDay - t.offsetSeconds * 1000000

/-- The time in UTC so many microseconds after the beginning of a day. -/
def ofDay (d : Date) (microseconds : Nat) : DateTime :=
  ⟨d, Fin.ofNat 24 (microseconds / 3600000000), Fin.ofNat 60 (microseconds / 60000000),
    Fin.ofNat 60 (microseconds / 1000000), Fin.ofNat 1000000 microseconds, some Offset.utc⟩

/-- The time in UTC at the instant of `t`. -/
def toUtc? (t : DateTime) : Option DateTime :=
  (Date.ofDayNumber? (t.instant / dayLength + 1)).map fun d => ofDay d (t.instant % dayLength).toNat

/-- The same moment, or the same reading where no offset is known. -/
def sameMoment (s t : DateTime) : Bool :=
  match s.offset, t.offset with
  | none, none => s = t
  | some _, some _ => s.instant = t.instant
  | _, _ => false

end DateTime

end LinkedData.Calendar
