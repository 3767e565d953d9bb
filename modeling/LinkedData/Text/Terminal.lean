/-!
# Text without terminal sequences

`withoutSequences` leaves out the sequences that set colours and the like on a terminal: an escape, an opening bracket,
digits, semicolons and question marks, and a letter.
-/

namespace LinkedData.Text

/-- A character between the bracket and the letter of a sequence. -/
def isParameterChar (c : Char) : Bool := c.isDigit || c == ';' || c == '?'

/-- What follows a sequence at the beginning of a text, if there is one. -/
def afterSequence? : List Char → Option (List Char)
  | '\x1b' :: '[' :: cs =>
    match cs.dropWhile isParameterChar with
    | c :: rest => if c.isAlpha then some rest else none
    | [] => none
  | _ => none

/-- A text without terminal sequences, in at most `fuel` steps. -/
def dropSequences : Nat → List Char → List Char
  | 0, cs => cs
  | _ + 1, [] => []
  | fuel + 1, c :: cs =>
    match afterSequence? (c :: cs) with
    | some rest => dropSequences fuel rest
    | none => c :: dropSequences fuel cs

/-- A text without terminal sequences. -/
def withoutSequences (text : String) : String := String.ofList (dropSequences text.length text.toList)

end LinkedData.Text
