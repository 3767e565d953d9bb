import LinkedData.Calendar.DateTime
import LinkedData.Numeric.FloatText
import LinkedData.Text.Replacement

/-!
# Written dates and times

* `timestamp?`: a moment in UTC to the millisecond, as `2024-01-31T10:20:30.123Z`; none outside the years 1 to 9999;
* `Date.text`, `Time.text` and `DateTime.text`: a date and a time as they read, the offset last;
* `readDate?`: the date that such a text begins with.
-/

namespace LinkedData.Calendar

open LinkedData.Numeric

/-! ### fields -/

/-- The digits of `n`, filled up with zeros to `width`. -/
def padded (width n : Nat) : List Char :=
  List.replicate (width - (natText n).length) '0' ++ natText n

/-- The number that exactly `width` digits write, and what follows them. -/
def readField? (width : Nat) (cs : List Char) : Option (Nat × List Char) :=
  let ds := cs.take width
  if ds.length = width ∧ ds.all Char.isDigit then some (Nat.ofDigitChars 10 ds 0, cs.drop width) else none

/-- What follows the character `c` at the beginning of `cs`. -/
def expect? (c : Char) : List Char → Option (List Char)
  | d :: cs => if d = c then some cs else none
  | [] => none

/-! ### writing -/

/-- A date as `2024-01-31`. -/
def Date.text (d : Date) : List Char :=
  padded 4 d.year ++ '-' :: padded 2 d.month ++ '-' :: padded 2 d.day

/-- Hours, minutes and seconds as `10:20:30`. -/
def clockText (hour minute second : Nat) : List Char :=
  padded 2 hour ++ ':' :: padded 2 minute ++ ':' :: padded 2 second

/-- An offset as `+05:30`, with seconds only if there are some. -/
def Offset.text (o : Offset) : List Char :=
  let n := o.val.natAbs
  (if o.val < 0 then '-' else '+') ::
    (padded 2 (n / 3600) ++ ':' :: padded 2 (n / 60 % 60) ++
      (if n % 60 = 0 then [] else ':' :: padded 2 (n % 60)))

/-- A time as `2024-01-31T10:20:30+05:30`, with `separator` after the date and `fraction` after the seconds. -/
def DateTime.textWith (separator : Char) (fraction : List Char) (t : DateTime) : List Char :=
  t.date.text ++ separator :: clockText t.hour.val t.minute.val t.second.val ++ fraction ++
    (match t.offset with
      | none => []
      | some o => Offset.text o)

/-- Microseconds as `.000001`, if there are some. -/
def microsecondText (microsecond : Nat) : List Char := if microsecond = 0 then [] else '.' :: padded 6 microsecond

/-- A time as `2024-01-31 10:20:30.000001+05:30`. -/
def DateTime.text (separator : Char) (t : DateTime) : List Char := t.textWith separator (microsecondText t.microsecond.val)

/-- A time of the day as `10:20:30.000001`. -/
def Time.text (t : Time) : List Char :=
  clockText t.hour.val t.minute.val t.second.val ++ microsecondText t.microsecond.val

/-- A time as `2024-01-31T10:20:30.123+05:30`; a fraction of a millisecond is cut off. -/
def DateTime.millisecondText (t : DateTime) : List Char :=
  t.textWith 'T' ('.' :: padded 3 (t.microsecond.val / 1000))

/-- The moment of `t` in UTC to the millisecond, with `Z` in the place of its offset. -/
def timestamp? (t : DateTime) : Option (List Char) :=
  t.toUtc?.map fun u => Text.replaceAll "+00:00".toList ['Z'] u.millisecondText

/-! ### reading -/

/-- A date at the beginning of `cs`, and what follows it. -/
def readDate? (cs : List Char) : Option (Date × List Char) := do
  let (year, cs) ← readField? 4 cs
  let cs ← expect? '-' cs
  let (month, cs) ← readField? 2 cs
  let cs ← expect? '-' cs
  let (day, cs) ← readField? 2 cs
  let date ← Date.of? year month day
  return (date, cs)

end LinkedData.Calendar
