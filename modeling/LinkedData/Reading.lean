import LinkedData.Failure

/-!
# Reading texts

* `unixLines`: a text with one character for the end of each line;
* `ReadError`: why a text in some format is not read; `Read` is what a reader gives.
-/

namespace LinkedData

/-- A text with line feeds for all its line ends. -/
def Text.unixLines : List Char → List Char
  | [] => []
  | '\r' :: '\n' :: cs => '\n' :: unixLines cs
  | '\r' :: cs => '\n' :: unixLines cs
  | c :: cs => c :: unixLines cs

/-- Why a text is not read. -/
inductive ReadError where
  /-- The text does not follow the rules of the format. -/
  | malformed
  /-- It does so as far as it is read, but something in it can not be made. -/
  | failure (e : Failure)
deriving DecidableEq

/-- What a reader gives. -/
abbrev Read (α : Type) := Except ReadError α

/-- What is there, which the rules of the format ask for. -/
def required {α : Type} : Option α → Read α
  | some a => .ok a
  | none => .error .malformed

end LinkedData
