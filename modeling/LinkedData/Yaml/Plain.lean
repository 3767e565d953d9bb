import LinkedData.Calendar.DateTime
import LinkedData.Numeric.FloatText
import LinkedData.Text.Digit
import LinkedData.Text.Escape
import LinkedData.Value.Basic
import LinkedData.Reading

/-!
# What scalars without quotes mean

The form of a scalar without quotes tells whether it is nothing, a truth value, a number or a time; a scalar of any
other form is a text.

* `readInteger?`, `readFloat?` and `readTime?`: the value of a scalar that has one of these forms;
* `plainValue`: the value of any scalar without quotes. A scalar may have the form of a number or a time and denote
  none, as a 30th of February does; such scalars are refused.
-/

namespace LinkedData.Yaml

open Calendar Numeric Text

/-- The value of a scalar of a form, if it denotes one. -/
abbrev Denoted := Read Value

/-- The value, which a scalar of the form has to denote. -/
def denoted : Option Value → Denoted
  | some v => .ok v
  | none => .error (.failure .denotesNothing)

/-! ### words -/

/-- The words for truth values. -/
def truthWords : List (String × Bool) :=
  [("yes", true), ("Yes", true), ("YES", true), ("no", false), ("No", false), ("NO", false),
   ("true", true), ("True", true), ("TRUE", true), ("false", false), ("False", false), ("FALSE", false),
   ("on", true), ("On", true), ("ON", true), ("off", false), ("Off", false), ("OFF", false)]

/-- The words for nothing. -/
def nullWords : List String := ["", "~", "null", "Null", "NULL"]

/-! ### integers -/

/-- The number that digits write in a base, underscores among them left out. -/
def numberIn (base : Nat) (cs : List Char) : Nat :=
  (cs.filterMap hexValue?).foldl (fun n d => base * n + d) 0

/-- An underscore or a character of a kind. -/
def orUnderscore (isKind : Char → Bool) (c : Char) : Bool := isKind c || c == '_'

/-- Decimal digits and underscores after a digit. -/
def isDigits (cs : List Char) : Bool := cs.head?.any Char.isDigit && cs.all (orUnderscore Char.isDigit)

/-- A number below sixty. -/
def isSixtieth : List Char → Bool
  | [c] => c.isDigit
  | [c, d] => '0' ≤ c && c ≤ '5' && d.isDigit
  | _ => false

/-- The magnitude of an integer in the given base, the digits of which follow its mark. -/
def readBased (base : Nat) (cs : List Char) : Option Nat :=
  if cs.all (· == '_') then none else some (numberIn base cs)

/-- The magnitude of an integer: nothing if the text is none, and nothing inside if it has no digits or, in base ten,
too many. Digits may follow a mark of base two, eight or sixteen, and numbers below sixty may follow a colon each. -/
def readMagnitude? (cs : List Char) : Option (Option Nat) :=
  match cs with
  | ['0'] => some (some 0)
  | '0' :: 'b' :: ds =>
    if !ds.isEmpty && ds.all (orUnderscore fun c => c == '0' || c == '1') then some (readBased 2 ds) else none
  | '0' :: 'x' :: ds =>
    if !ds.isEmpty && ds.all (orUnderscore fun c => (hexValue? c).isSome) then some (readBased 16 ds) else none
  | '0' :: ds => if ds.all (orUnderscore fun c => '0' ≤ c && c ≤ '7') then some (some (numberIn 8 ds)) else none
  | _ =>
    match cs.splitOn ':' with
    | whole :: sixtieths =>
      if isDigits whole && sixtieths.all isSixtieth then
        if digitLimit < (whole.filter Char.isDigit).length then some none
        else some (some (sixtieths.foldl (fun n part => 60 * n + numberIn 10 part) (numberIn 10 whole)))
      else none
    | [] => none

/-- The value of an integer. -/
def readInteger? (cs : List Char) : Option Denoted :=
  let (negative, digits) := readSign cs
  (readMagnitude? digits).map fun n? => denoted (n?.map fun n => .int (Binary64.signed negative n))

/-! ### floats -/

/-- An exponent with its sign. -/
def readSignedExponent? : List Char → Option Int
  | e :: sign :: ds =>
    if (e == 'e' || e == 'E') && (sign == '-' || sign == '+') && !ds.isEmpty && ds.all Char.isDigit then
      some (Binary64.signed (sign == '-') (numberIn 10 ds))
    else none
  | _ => none

/-- A number with a point and, perhaps, an exponent; digits stand before the point or, without a sign, right after. -/
def readPointed? (cs : List Char) : Option Binary64 :=
  let (negative, unsigned) := readSign cs
  let whole := unsigned.takeWhile (· != '.')
  match unsigned.drop whole.length with
  | '.' :: rest =>
    let fraction := rest.takeWhile (orUnderscore Char.isDigit)
    let exponent := rest.drop fraction.length
    let isForm := if whole.isEmpty then isDigits fraction && unsigned.length == cs.length else isDigits whole
    let exponent? := if exponent.isEmpty then some 0 else readSignedExponent? exponent
    if isForm then
      exponent?.map fun e =>
        Binary64.ofDecimal negative (numberIn 10 (whole ++ fraction)) (e - (fraction.filter Char.isDigit).length)
    else none
  | _ => none

/-- The magnitude of a number, if it is finite, in units of the least positive one. -/
def unitsOf? : Binary64 → Option Nat
  | .finite _ rank => some (Binary64.units rank)
  | _ => none

/-- The sum of numbers, the first one times one, the second one times sixty and so on; each power, each product and
each sum is rounded. -/
def sixtiethsSum (sum : Binary64) (power : Nat) : List Binary64 → Read Binary64
  | [] => .ok sum
  | x :: xs =>
    match (Binary64.ofInt power).integer? with
    | none => .error (.failure .outOfRange)
    | some rounded =>
      let product := (unitsOf? x).map fun n => Binary64.ofRatio false (n * rounded.toNat) 1
      match unitsOf? sum, product.bind unitsOf? with
      | some m, some n => sixtiethsSum (Binary64.ofRatio false (m + n) 1) (60 * power) xs
      | _, _ => sixtiethsSum (.infinity false) (60 * power) xs

/-- The same number with the given sign. -/
def withSign (negative : Bool) : Binary64 → Binary64
  | .finite _ rank => .finite negative rank
  | .infinity _ => .infinity negative
  | .nan identity => .nan identity

/-- A number before colons with a number below sixty after each, the last one with a point. -/
def readSixtieths? (cs : List Char) : Option (Read Binary64) :=
  let (negative, unsigned) := readSign cs
  let parts := (unsigned.takeWhile (· != '.')).splitOn ':'
  match parts, unsigned.dropWhile (· != '.') with
  | whole :: part :: more, '.' :: fraction =>
    if isDigits whole && (part :: more).all isSixtieth && fraction.all (orUnderscore Char.isDigit) then
      let ds := fraction.filter Char.isDigit
      let last := Binary64.ofDecimal false (numberIn 10 ((part :: more).getLastD [] ++ ds)) (-ds.length)
      let others := parts.dropLast.reverse.map fun p => Binary64.ofDecimal false (numberIn 10 p) 0
      some ((sixtiethsSum (Binary64.ofDecimal false 0 0) 1 (last :: others)).map (withSign negative))
    else none
  | _, _ => none

/-- The words for infinite numbers and for what is not a number. -/
def specialFloats : List (String × Binary64) :=
  [(".inf", .infinity false), (".Inf", .infinity false), (".INF", .infinity false),
   ("+.inf", .infinity false), ("+.Inf", .infinity false), ("+.INF", .infinity false),
   ("-.inf", .infinity true), ("-.Inf", .infinity true), ("-.INF", .infinity true),
   (".nan", .nan 0), (".NaN", .nan 0), (".NAN", .nan 0)]

/-- The value of a float. -/
def readFloat? (cs : List Char) : Option Denoted :=
  let special := specialFloats.lookup (String.ofList cs)
  let read? := ((special.or (readPointed? cs)).map Except.ok).or (readSixtieths? cs)
  read?.map fun read => read.map .float

/-! ### times -/

/-- The number that the digits at the beginning write, of which there are `least` to `most`, and what follows. -/
def readDigitRun? (least most : Nat) (cs : List Char) : Option (Nat × List Char) :=
  let ds := (cs.take most).takeWhile Char.isDigit
  if least ≤ ds.length then some (numberIn 10 ds, cs.drop ds.length) else none

/-- What follows a character at the beginning of a text. -/
def after? (c : Char) : List Char → Option (List Char)
  | d :: cs => if d = c then some cs else none
  | [] => none

/-- Year, month and day at the beginning of a text, the latter two of at least so many digits, and what follows. -/
def readDay? (least : Nat) (cs : List Char) : Option ((Nat × Nat × Nat) × List Char) := do
  let (year, cs) ← readDigitRun? 4 4 cs
  let (month, cs) ← readDigitRun? least 2 (← after? '-' cs)
  let (day, cs) ← readDigitRun? least 2 (← after? '-' cs)
  return ((year, month, day), cs)

/-- What follows the `T` or the blanks between a date and a time of the day. -/
def afterDay? : List Char → Option (List Char)
  | c :: cs =>
    if c = 'T' ∨ c = 't' then some cs
    else if c = ' ' ∨ c = '\t' then some (cs.dropWhile fun d => d == ' ' || d == '\t')
    else none
  | [] => none

/-- The microseconds of a fraction of a second, whose digits beyond the sixth are cut off, and what follows it. -/
def readMicroseconds (cs : List Char) : Nat × List Char :=
  match cs with
  | '.' :: rest =>
    let ds := rest.takeWhile Char.isDigit
    (numberIn 10 ((ds ++ List.replicate 6 '0').take 6), rest.drop ds.length)
  | _ => (0, cs)

/-- The seconds by which a written offset is ahead of UTC; nothing inside if nothing is written. -/
def readZone? (cs : List Char) : Option (Option Int) :=
  match cs, cs.dropWhile fun c => c == ' ' || c == '\t' with
  | [], _ => some none
  | _, ['Z'] => some (some 0)
  | _, sign :: rest => do
    if sign ≠ '+' ∧ sign ≠ '-' then failure
    let (hours, rest) ← readDigitRun? 1 2 rest
    let minutes ← match rest with
      | [] => some 0
      | rest => do
        let (minutes, rest) ← readDigitRun? 2 2 (← after? ':' rest)
        if rest.isEmpty then some minutes else none
    return some (Binary64.signed (sign = '-') ((hours * 60 + minutes) * 60))
  | _, [] => none

/-- The value of a date with a time of the day. -/
def readDateTime? (cs : List Char) : Option Denoted := do
  let ((year, month, day), cs) ← readDay? 1 cs
  let (hour, cs) ← readDigitRun? 1 2 (← afterDay? cs)
  let (minute, cs) ← readDigitRun? 2 2 (← after? ':' cs)
  let (second, cs) ← readDigitRun? 2 2 (← after? ':' cs)
  let (microsecond, cs) := readMicroseconds cs
  let zone ← readZone? cs
  return denoted do
    let date ← Date.of? year month day
    let offset ← match zone with
      | none => some none
      | some seconds => (Offset.of? seconds).map some
    let time ← DateTime.of? date hour minute second microsecond offset
    return .scalar (.datetime time)

/-- The value of a date or of a date with a time of the day. -/
def readTime? (cs : List Char) : Option Denoted :=
  match readDay? 2 cs with
  | some ((year, month, day), []) => some (denoted ((Date.of? year month day).map fun d => .scalar (.date d)))
  | _ => readDateTime? cs

/-! ### all scalars -/

/-- The texts without quotes that stand for something else than a value. -/
def reservedWords : List String := ["=", "<<"]

/-- The value of a scalar without quotes. -/
def plainValue (cs : List Char) : Denoted :=
  let text := String.ofList cs
  if reservedWords.contains text then .error .malformed
  else if nullWords.contains text then .ok .null
  else
    match truthWords.lookup text with
    | some b => .ok (.bool b)
    | none =>
      ((readFloat? cs).or ((readInteger? cs).or (readTime? cs))).getD (.ok (.str text))

end LinkedData.Yaml
