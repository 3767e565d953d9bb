import LinkedData.Failure
import LinkedData.Numeric.FloatText

/-!
# Compact JSON that is inert in markup

* `jsonString`: a text between quotes; quotes, backslashes and controls are escaped and nothing else;
* `encode`: a value without blanks between its tokens; tuples are arrays, and keys that are numbers, truth values or
  null become texts;
* `escapeMarkup`: angle brackets and ampersands as escapes, which only ever stand inside of texts;
* `serialize`: both together.

Integers are only written up to a number of digits. How deep values are nested is not limited here: a program that keeps
a stack of fixed size for its recursion fails on values that are nested too deep for it.
-/

namespace LinkedData.Json

open Numeric Text

/-! ### texts -/

/-- The escape of a control character or of a character with a meaning inside of texts. -/
def escapeChar (c : Char) : List Char :=
  if c = '\x22' ∨ c = '\\' then ['\\', c]
  else if c = '\n' then ['\\', 'n']
  else if c = '\r' then ['\\', 'r']
  else if c = '\t' then ['\\', 't']
  else if c.toNat = 8 then ['\\', 'b']
  else if c.toNat = 12 then ['\\', 'f']
  else if c.toNat < 0x20 then '\\' :: 'u' :: hexPadded 4 c.toNat
  else [c]

/-- A text between quotes. -/
def jsonString (cs : List Char) : List Char := '\x22' :: cs.flatMap escapeChar ++ ['\x22']

/-! ### values -/

/-- The text of a finite number. -/
def encodeFloat (x : Binary64) : Except Failure (List Char) :=
  if x.isFinite then .ok x.text else .error .numberNotFinite

/-- The digits of an integer, if they are not too many. -/
def encodeInt (n : Int) : Except Failure (List Char) :=
  if isWritable n then .ok (intText n) else .error .overlongInteger

/-- The text of a truth value. -/
def boolText (b : Bool) : List Char := if b then "true".toList else "false".toList

/-- A value without parts. -/
def encodeScalar : Scalar → Except Failure (List Char)
  | .null => .ok "null".toList
  | .bool b => .ok (boolText b)
  | .int n => encodeInt n
  | .float x => encodeFloat x
  | .str s => .ok (jsonString s.toList)
  | _ => .error .notEncodable

/-- The text that a key becomes. -/
def keyText : Key → Except Failure (List Char)
  | .str s => .ok s.toList
  | .scalar .null => .ok "null".toList
  | .scalar (.bool b) => .ok (boolText b)
  | .scalar (.int n) => encodeInt n
  | .scalar (.float x) => encodeFloat x
  | _ => .error .notEncodable

mutual
/-- A value as compact JSON. -/
def encode : Value → Except Failure (List Char)
  | .scalar s => encodeScalar s
  | .set _ => .error .notEncodable
  | .list items => do
    let parts ← encodeL items
    return '[' :: List.intercalate [','] parts ++ [']']
  | .tuple items => do
    let parts ← encodeL items
    return '[' :: List.intercalate [','] parts ++ [']']
  | .map entries => do
    let parts ← encodeE entries
    return '\x7b' :: List.intercalate [','] parts ++ ['\x7d']
def encodeL : List Value → Except Failure (List (List Char))
  | [] => .ok []
  | v :: vs => do
    let part ← encode v
    let parts ← encodeL vs
    return part :: parts
def encodeE : List (Key × Value) → Except Failure (List (List Char))
  | [] => .ok []
  | (k, v) :: es => do
    let name ← keyText k
    let part ← encode v
    let parts ← encodeE es
    return (jsonString name ++ ':' :: part) :: parts
end

/-! ### markup -/

/-- A character that markup gives a meaning to, as an escape. -/
def escapeMarkupChar (c : Char) : List Char :=
  if c = '<' ∨ c = '>' ∨ c = '&' then '\\' :: 'u' :: hexPadded 4 c.toNat else [c]

/-- A text without characters that markup gives a meaning to. -/
def escapeMarkup (cs : List Char) : List Char := cs.flatMap escapeMarkupChar

/-- A value as compact JSON that is inert in markup. -/
def serialize (v : Value) : Except Failure String :=
  (encode v).map fun cs => String.ofList (escapeMarkup cs)

end LinkedData.Json
