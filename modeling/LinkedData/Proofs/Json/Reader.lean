import LinkedData.Numeric.FloatText
import LinkedData.Text.Escape
import LinkedData.Text.Half
import LinkedData.Value.Mapping

/-!
# Reading JSON

A reader for the whole of JSON, written without regard to how values are encoded here: blanks may stand between any
tokens, texts may use every escape, and numbers may have any sign, fraction and exponent.

* `readString?`: a text after its opening quote; two escapes that are the halves of one character are that character,
  a single one is a half;
* `readNumber?`: a number, which is an integer if it has neither a fraction nor an exponent, else the nearest binary64
  number;
* `readValue?`: a value at the beginning of a text, with fuel for so many values inside of one another and after one
  another; where an object has a name twice, the last value counts;
* `read?`: the value that a text consists of.
-/

namespace LinkedData.Json

open Numeric Text

/-! ### tokens -/

/-- White space between tokens. -/
def isSpace (c : Char) : Bool := c == ' ' || c == '\t' || c == '\n' || c == '\r'

/-- What follows the character `c` if that is the next token. -/
def token? (c : Char) (cs : List Char) : Option (List Char) :=
  match cs.dropWhile isSpace with
  | [] => none
  | d :: rest => if d = c then some rest else none

/-! ### texts -/

/-- A piece of a text between quotes. -/
inductive Piece where
  /-- A character as it stands, or after a backslash. -/
  | char (c : Char)
  /-- The code that an escape writes. -/
  | code (n : Nat)
deriving DecidableEq

/-- The character that a letter after a backslash stands for. -/
def escaped? (c : Char) : Option Char :=
  if c = '\x22' ∨ c = '\\' ∨ c = '/' then some c
  else if c = 'b' then some (Char.ofNat 8)
  else if c = 'f' then some (Char.ofNat 12)
  else if c = 'n' then some '\n'
  else if c = 'r' then some '\r'
  else if c = 't' then some '\t'
  else none

/-- Puts a piece before those that are read. -/
def onPiece (p : Piece) : List Piece × List Char → List Piece × List Char := fun (ps, rest) => (p :: ps, rest)

/-- The pieces up to the closing quote, and what follows it. -/
def readPieces? : List Char → Option (List Piece × List Char)
  | [] => none
  | c :: rest =>
    if c = '\x22' then some ([], rest)
    else if c = '\\' then
      match rest with
      | 'u' :: h₁ :: h₂ :: h₃ :: h₄ :: rest =>
        (appendHex? 0 [h₁, h₂, h₃, h₄]).bind fun n => (readPieces? rest).map (onPiece (.code n))
      | e :: rest => (escaped? e).bind fun c => (readPieces? rest).map (onPiece (.char c))
      | [] => none
    else if c.toNat < 0x20 then none
    else (readPieces? rest).map (onPiece (.char c))

/-- The codes are the first and the second half of a character. -/
def areHalves (n m : Nat) : Bool := 0xD800 ≤ n && n < 0xDC00 && 0xDC00 ≤ m && m < 0xE000

/-- The code of the character with the given halves. -/
def joinHalves (n m : Nat) : Nat := 0x10000 + (n - 0xD800) * 0x400 + (m - 0xDC00)

/-- The text of pieces. -/
def joinPieces? : List Piece → Option (List Char)
  | [] => some []
  | .char c :: ps => (joinPieces? ps).map (c :: ·)
  | .code n :: ps =>
    match ps with
    | .code m :: qs =>
      if areHalves n m then (textOfCode? (joinHalves n m)).bind fun cs => (joinPieces? qs).map (cs ++ ·)
      else (textOfCode? n).bind fun cs => (joinPieces? (.code m :: qs)).map (cs ++ ·)
    | ps => (textOfCode? n).bind fun cs => (joinPieces? ps).map (cs ++ ·)

/-- A text after its opening quote, and what follows it. -/
def readString? (cs : List Char) : Option (String × List Char) :=
  (readPieces? cs).bind fun (ps, rest) => (joinPieces? ps).map fun text => (String.ofList text, rest)

/-! ### numbers -/

/-- A character that numbers are written with. -/
def isNumberChar (c : Char) : Bool := c.isDigit || c == '-' || c == '+' || c == '.' || c == 'e' || c == 'E'

/-- One digit or more. -/
def isRun (cs : List Char) : Bool := !cs.isEmpty && cs.all Char.isDigit

/-- An exponent, or nothing. -/
def isExponentPart : List Char → Bool
  | [] => true
  | c :: cs => (c == 'e' || c == 'E') && isRun (readSign cs).2

/-- What may follow the digits before the point. -/
def isNumberTail : List Char → Bool
  | [] => true
  | c :: cs =>
    if c = '.' then isRun (cs.takeWhile Char.isDigit) && isExponentPart (cs.dropWhile Char.isDigit)
    else isExponentPart (c :: cs)

/-- Splits off a minus sign. -/
def readMinus : List Char → Bool × List Char
  | '-' :: cs => (true, cs)
  | cs => (false, cs)

/-- The number that a text is. -/
def readNumber? (cs : List Char) : Option Scalar :=
  let (negative, body) := readMinus cs
  let whole := body.takeWhile Char.isDigit
  let tail := body.dropWhile Char.isDigit
  if whole.isEmpty || (1 < whole.length && whole.head? == some '0') then none
  else if tail.isEmpty then some (.int (Binary64.signed negative (Nat.ofDigitChars 10 whole 0)))
  else if isNumberTail tail then (Binary64.read? cs).map .float
  else none

/-! ### values -/

/-- A word or a number at the beginning of a text, and what follows it. -/
def readLeaf? (cs : List Char) : Option (Scalar × List Char) :=
  if "null".toList.isPrefixOf cs then some (.null, cs.drop 4)
  else if "true".toList.isPrefixOf cs then some (.bool true, cs.drop 4)
  else if "false".toList.isPrefixOf cs then some (.bool false, cs.drop 5)
  else (readNumber? (cs.takeWhile isNumberChar)).map fun s => (s, cs.dropWhile isNumberChar)

mutual
/-- A value at the beginning of a text, and what follows it. -/
def readValue? : Nat → List Char → Option (Value × List Char)
  | 0, _ => none
  | fuel + 1, cs =>
    match token? '\x7b' cs with
    | some cs =>
      match token? '\x7d' cs with
      | some rest => some (.map [], rest)
      | none => (readMembers? fuel cs).map fun (es, rest) => (.map (Entries.ofList es), rest)
    | none =>
      match token? '[' cs with
      | some cs =>
        match token? ']' cs with
        | some rest => some (.list [], rest)
        | none => (readItems? fuel cs).map fun (vs, rest) => (.list vs, rest)
      | none =>
        match token? '\x22' cs with
        | some cs => (readString? cs).map fun (text, rest) => (.str text, rest)
        | none => (readLeaf? (cs.dropWhile isSpace)).map fun (s, rest) => (.scalar s, rest)
/-- The items of a list up to its closing bracket, one or more. -/
def readItems? : Nat → List Char → Option (List Value × List Char)
  | 0, _ => none
  | fuel + 1, cs => do
    let (v, cs) ← readValue? fuel cs
    match token? ',' cs with
    | some cs => (readItems? fuel cs).map fun (vs, rest) => (v :: vs, rest)
    | none => (token? ']' cs).map fun rest => ([v], rest)
/-- The members of an object up to its closing bracket, one or more. -/
def readMembers? : Nat → List Char → Option (List (Key × Value) × List Char)
  | 0, _ => none
  | fuel + 1, cs => do
    let cs ← token? '\x22' cs
    let (name, cs) ← readString? cs
    let cs ← token? ':' cs
    let (v, cs) ← readValue? fuel cs
    match token? ',' cs with
    | some cs => (readMembers? fuel cs).map fun (es, rest) => ((.str name, v) :: es, rest)
    | none => (token? '\x7d' cs).map fun rest => ([(.str name, v)], rest)
end

/-- The value that a text consists of. -/
def read? (text : String) : Option Value :=
  (readValue? (text.toList.length + 1) text.toList).bind fun (v, rest) =>
    if rest.all isSpace then some v else none

-- blanks, an exponent and two escapes that are one character; neither needless zeros nor commas, nor anything after
example : read? " [-12, 2.50e+1, \"\\ud83d\\ude00\\/\", { }]" =
    some (.list [.int (-12), .float (.ofInt 25), .str "😀/", .map []]) := by decide +kernel

example : read? "[01]" = none ∧ read? "[1,]" = none ∧ read? "[1] 2" = none := by decide +kernel

end LinkedData.Json
