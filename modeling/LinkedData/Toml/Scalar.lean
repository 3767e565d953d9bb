import LinkedData.Reading
import LinkedData.Text.Digit
import LinkedData.Text.Escape

/-!
# Keys, strings, times and numbers of TOML

Readers of the parts of a TOML document that hold no others. A reader gives what it read and the rest of the text, or
nothing if the text does not start with it.

* `readKey?`: a bare key or a quoted one;
* `readString?`: a string in single or double quotes, on one line or, between three of them, on several;
* `readMoment?`: a date, a time of the day, or a date with a time of the day and possibly an offset;
* `readNumber`: an integer in base ten, two, eight or sixteen, or a float; digits may be separated by underscores.
-/

namespace LinkedData.Toml

open Calendar Numeric Text

/-- A control character other than the tab. -/
def isForbidden (c : Char) : Bool := (c.toNat < 0x20 && c != '\t') || c.toNat == 0x7F

/-- A control character that is forbidden also on several lines. -/
def isForbiddenInLines (c : Char) : Bool := isForbidden c && c != '\n'

/-- The text without the spaces and tabs at its beginning. -/
def skipSpaces (cs : List Char) : List Char := cs.dropWhile fun c => c == ' ' || c == '\t'

/-! ### strings -/

/-- The character that an escape stands for, given what follows the backslash. -/
def readEscape? : List Char → Option (Char × List Char)
  | 'b' :: cs => some ('\x08', cs)
  | 't' :: cs => some ('\t', cs)
  | 'n' :: cs => some ('\n', cs)
  | 'f' :: cs => some ('\x0c', cs)
  | 'r' :: cs => some ('\r', cs)
  | '\x22' :: cs => some ('\x22', cs)
  | '\\' :: cs => some ('\\', cs)
  | 'u' :: cs => readHexChar? 4 cs
  | 'U' :: cs => readHexChar? 8 cs
  | _ => none

/-- The rest of a string between double quotes. -/
def readBasic? : Nat → List Char → Option (List Char × List Char)
  | 0, _ => none
  | _ + 1, [] => none
  | fuel + 1, c :: cs =>
    if c = '\x22' then some ([], cs)
    else if c = '\\' then do
      let (d, rest) ← readEscape? cs
      let (ds, rest) ← readBasic? fuel rest
      return (d :: ds, rest)
    else if isForbidden c then none
    else do
      let (ds, rest) ← readBasic? fuel cs
      return (c :: ds, rest)

/-- The rest of a string between single quotes. -/
def readLiteral? : List Char → Option (List Char × List Char)
  | [] => none
  | c :: cs =>
    if c = '\x27' then some ([], cs)
    else if isForbidden c then none
    else do
      let (ds, rest) ← readLiteral? cs
      return (c :: ds, rest)

/-- The number of quotes at the beginning, up to five. -/
def quoteRun (quote : Char) (cs : List Char) : Nat := ((cs.take 5).takeWhile (· == quote)).length

/-- Blanks and line ends, of which there has to be one, after a backslash at the end of a line. -/
def skipLineEnd? (cs : List Char) : Option (List Char) :=
  match skipSpaces cs with
  | '\n' :: rest => some (rest.dropWhile fun c => c == ' ' || c == '\t' || c == '\n')
  | _ => none

/-- The rest of a string on several lines; up to two quotes may stand before the closing three. -/
def readLines? (quote : Char) : Nat → List Char → Option (List Char × List Char)
  | 0, _ => none
  | _ + 1, [] => none
  | fuel + 1, c :: cs =>
    if c = quote ∧ 3 ≤ quoteRun quote (c :: cs) then
      let n := quoteRun quote (c :: cs)
      some (List.replicate (n - 3) quote, (c :: cs).drop n)
    else if c = '\\' ∧ quote = '\x22' then
      match skipLineEnd? cs with
      | some rest => readLines? quote fuel rest
      | none => do
        let (d, rest) ← readEscape? cs
        let (ds, rest) ← readLines? quote fuel rest
        return (d :: ds, rest)
    else if isForbiddenInLines c then none
    else do
      let (ds, rest) ← readLines? quote fuel cs
      return (c :: ds, rest)

/-- The text without a line end at its beginning. -/
def skipFirstLineEnd : List Char → List Char
  | '\n' :: cs => cs
  | cs => cs

/-- A string in any of the four forms. -/
def readString? (cs : List Char) : Option (List Char × List Char) :=
  match cs with
  | '\x22' :: '\x22' :: '\x22' :: rest => readLines? '\x22' (rest.length + 1) (skipFirstLineEnd rest)
  | '\x27' :: '\x27' :: '\x27' :: rest => readLines? '\x27' (rest.length + 1) (skipFirstLineEnd rest)
  | '\x22' :: rest => readBasic? (rest.length + 1) rest
  | '\x27' :: rest => readLiteral? rest
  | _ => none

/-! ### keys -/

/-- A character of a key without quotes. -/
def isBareKeyChar (c : Char) : Bool := c.isAlphanum || c == '-' || c == '_'

/-- One part of a key. -/
def readKeyPart? (cs : List Char) : Option (String × List Char) :=
  match cs with
  | '\x22' :: rest => (readBasic? (rest.length + 1) rest).map fun (name, rest) => (String.ofList name, rest)
  | '\x27' :: rest => (readLiteral? rest).map fun (name, rest) => (String.ofList name, rest)
  | _ =>
    let name := cs.takeWhile isBareKeyChar
    if name.isEmpty then none else some (String.ofList name, cs.dropWhile isBareKeyChar)

/-- The parts of a key with dots between them, at most `fuel` of them, and the blanks after it. -/
def readKey? : Nat → List Char → Option (List String × List Char)
  | 0, _ => none
  | fuel + 1, cs => do
    let (part, rest) ← readKeyPart? cs
    match skipSpaces rest with
    | '.' :: rest =>
      let (parts, rest) ← readKey? fuel (skipSpaces rest)
      return (part :: parts, rest)
    | rest => return ([part], rest)

/-! ### dates and times -/

/-- A number of two digits that is not too small or too great. -/
def readTwo? (least greatest : Nat) (cs : List Char) : Option (Nat × List Char) :=
  (readField? 2 cs).filter fun (n, _) => least ≤ n && n ≤ greatest

/-- The microseconds of a fraction of a second, if there is one. Its digits beyond the sixth are left out. -/
def readMicroseconds (cs : List Char) : Nat × List Char :=
  match cs with
  | '.' :: rest =>
    let ds := rest.takeWhile Char.isDigit
    if ds.isEmpty then (0, cs)
    else (Nat.ofDigitChars 10 ((ds ++ List.replicate 6 '0').take 6) 0, rest.drop ds.length)
  | _ => (0, cs)

/-- A time of the day. -/
def readClock? (cs : List Char) : Option (Time × List Char) := do
  let (hour, cs) ← readTwo? 0 23 cs
  let (minute, cs) ← readTwo? 0 59 (← expect? ':' cs)
  let (second, cs) ← readTwo? 0 59 (← expect? ':' cs)
  let (microsecond, cs) := readMicroseconds cs
  return (← Time.of? hour minute second microsecond, cs)

/-- An offset after a sign. -/
def readHours? (negative : Bool) (cs : List Char) : Option (Offset × List Char) := do
  let (hour, cs) ← readTwo? 0 23 cs
  let (minute, cs) ← readTwo? 0 59 (← expect? ':' cs)
  return (← Offset.of? (Binary64.signed negative ((hour * 60 + minute) * 60)), cs)

/-- The offset after a time of the day, if there is one. -/
def readZone (cs : List Char) : Option Offset × List Char :=
  let zone? := match cs with
    | 'Z' :: rest | 'z' :: rest => some (Offset.utc, rest)
    | '+' :: rest => readHours? false rest
    | '-' :: rest => readHours? true rest
    | _ => none
  match zone? with
  | some (offset, rest) => (some offset, rest)
  | none => (none, cs)

/-- A year, a month and a day. -/
def readDay? (cs : List Char) : Option ((Nat × Nat × Nat) × List Char) := do
  let (year, cs) ← readField? 4 cs
  let (month, cs) ← readTwo? 1 12 (← expect? '-' cs)
  let (day, cs) ← readTwo? 1 31 (← expect? '-' cs)
  return ((year, month, day), cs)

/-- What follows the mark between a date and a time of the day. -/
def afterDay? : List Char → Option (List Char)
  | c :: cs => if c = 'T' ∨ c = 't' ∨ c = ' ' then some cs else none
  | [] => none

/-- A date or a time. A date has to name a day, with the time that follows it, if one does. -/
def readMoment? (cs : List Char) : Option (Read (Scalar × List Char)) :=
  match readDay? cs with
  | some ((year, month, day), rest) =>
    let date? := required (Date.of? year month day)
    match (afterDay? rest).bind readClock? with
    | some (time, rest) =>
      let (offset, rest) := readZone rest
      some (date?.map fun d => (.datetime (d.at time offset), rest))
    | none => some (date?.map fun d => (.date d, rest))
  | none => (readClock? cs).map fun (time, rest) => .ok (.time time, rest)

/-! ### numbers -/

/-- A run of digits with single underscores between them, without the underscores. -/
def readDigits? (isDigit : Char → Bool) : List Char → Option (List Char × List Char)
  | [] => none
  | c :: cs =>
    if isDigit c then
      match cs with
      | '_' :: d :: rest =>
        if isDigit d then (readDigits? isDigit (d :: rest)).map fun (ds, rest) => (c :: ds, rest)
        else some ([c], cs)
      | d :: rest =>
        if isDigit d then (readDigits? isDigit (d :: rest)).map fun (ds, rest) => (c :: ds, rest)
        else some ([c], cs)
      | [] => some ([c], [])
    else none

/-- An octal digit. -/
def isOctal (c : Char) : Bool := '0' ≤ c && c ≤ '7'

/-- A binary digit. -/
def isBinary (c : Char) : Bool := c == '0' || c == '1'

/-- The number that digits write in a base up to sixteen. -/
def ofDigits (base : Nat) (ds : List Char) : Nat := ds.foldl (fun n c => base * n + (hexValue? c).getD 0) 0

/-- An integer in another base than ten. -/
def readBased? (base : Nat) (isDigit : Char → Bool) (cs : List Char) : Option (Value × List Char) :=
  (readDigits? isDigit cs).map fun (ds, rest) => (.int (ofDigits base ds), rest)

/-- The whole part of a decimal number, without leading zeros. -/
def readWhole? (cs : List Char) : Option (List Char × List Char) :=
  match cs with
  | '0' :: rest => some (['0'], rest)
  | _ => readDigits? Char.isDigit cs

/-- The fraction of a decimal number, if there is one. -/
def readFraction (cs : List Char) : List Char × List Char :=
  match cs with
  | '.' :: rest => (readDigits? Char.isDigit rest).getD ([], cs)
  | _ => ([], cs)

/-- The exponent of a decimal number, if there is one. -/
def readExponentPart (cs : List Char) : Option Int × List Char :=
  match cs with
  | e :: rest =>
    if e = 'e' ∨ e = 'E' then
      let (negative, digits) := readSign rest
      match readDigits? Char.isDigit digits with
      | some (ds, rest) => (some (Binary64.signed negative (Nat.ofDigitChars 10 ds 0)), rest)
      | none => (none, cs)
    else (none, cs)
  | [] => (none, cs)

/-- A decimal number; with a fraction or an exponent it is a float. -/
def readDecimalNumber? (cs : List Char) : Option (Read (Value × List Char)) := do
  let (negative, unsigned) := readSign cs
  let (whole, rest) ← readWhole? unsigned
  let (fraction, rest) := readFraction rest
  let (exponent?, rest) := readExponentPart rest
  if fraction.isEmpty && exponent?.isNone then
    if digitLimit < whole.length then return .error (.failure .overlongInteger)
    return .ok (.int (Binary64.signed negative (Nat.ofDigitChars 10 whole 0)), rest)
  else
    return .ok (.float (Binary64.ofDecimal negative (Nat.ofDigitChars 10 (whole ++ fraction) 0)
      (exponent?.getD 0 - fraction.length)), rest)

/-- An infinity or a NaN, with a sign or without one. -/
def readSpecial? (cs : List Char) : Option (Value × List Char) :=
  let (negative, unsigned) := readSign cs
  match unsigned with
  | 'i' :: 'n' :: 'f' :: rest => some (.float (.infinity negative), rest)
  | 'n' :: 'a' :: 'n' :: rest => some (.float (.nan 0), rest)
  | _ => none

/-- A number in any form. -/
def readNumber (cs : List Char) : Read (Value × List Char) :=
  let based := match cs with
    | '0' :: 'x' :: rest => readBased? 16 (fun c => (hexValue? c).isSome) rest
    | '0' :: 'b' :: rest => readBased? 2 isBinary rest
    | '0' :: 'o' :: rest => readBased? 8 isOctal rest
    | _ => none
  match based with
  | some result => .ok result
  | none => (readDecimalNumber? cs).getD (required (readSpecial? cs))

end LinkedData.Toml
