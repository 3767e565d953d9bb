/-!
# Places in a text

* `Cursor`: a place by its line and column, and the text from there on;
* `Cursor.skip`: the next place where something other than spaces, comments and line ends stands;
* `Cursor.lineEnds`: the line ends that follow a place, which `folded` turns into text;
* `Cursor.isMarker`: a line that begins with `---` or `...` separates documents.
-/

namespace LinkedData.Yaml

/-! ### characters -/

/-- A character that ends a line. -/
def isBreak (c : Char) : Bool := c == '\n' || c == '\u0085' || c == '\u2028' || c == '\u2029'

/-- A space or a tab. -/
def isSpacing (c : Char) : Bool := c == ' ' || c == '\t'

/-- The end of a text, or a character that stands between words. -/
def isGap : Option Char → Bool
  | none => true
  | some c => isSpacing c || isBreak c

/-! ### places -/

/-- A place in a text. -/
structure Cursor where
  line : Nat
  column : Nat
  /-- The text from here on. -/
  rest : List Char

namespace Cursor

/-- The beginning of a text. -/
def start (text : List Char) : Cursor := ⟨0, 0, text⟩

/-- The place `n` characters further on the same line. -/
def drop (n : Nat) (here : Cursor) : Cursor := ⟨here.line, here.column + n, here.rest.drop n⟩

/-- The character at the place. -/
def next? (here : Cursor) : Option Char := here.rest.head?

/-- Nothing but the end of the text is left. -/
def isEnd (here : Cursor) : Bool := here.rest.isEmpty

/-- A separator of documents stands at the place. -/
def isMarker (here : Cursor) : Bool :=
  here.column == 0 && ("---".toList.isPrefixOf here.rest || "...".toList.isPrefixOf here.rest) && isGap here.rest[3]?

/-- The place after spaces, line ends and comments, the first of which may have begun before. -/
def skipFrom (inComment : Bool) (line column : Nat) : List Char → Cursor
  | [] => ⟨line, column, []⟩
  | c :: cs =>
    if isBreak c then skipFrom false (line + 1) 0 cs
    else if inComment || c == '#' then skipFrom true line (column + 1) cs
    else if c = ' ' then skipFrom false line (column + 1) cs
    else ⟨line, column, c :: cs⟩

/-- The place after spaces, line ends and comments. -/
def skip (here : Cursor) : Cursor := skipFrom false here.line here.column here.rest

/-! ### line ends -/

/-- The line ends and the blanks around them, and the place after them. -/
def lineEndsFrom (isBlank : Char → Bool) (line column : Nat) : List Char → List Char × Cursor
  | [] => ([], ⟨line, column, []⟩)
  | c :: cs =>
    if isBreak c then
      let (breaks, after) := lineEndsFrom isBlank (line + 1) 0 cs
      ((if c = '\u0085' then '\n' else c) :: breaks, after)
    else if isBlank c then lineEndsFrom isBlank line (column + 1) cs
    else ([], ⟨line, column, c :: cs⟩)

/-- The line ends that follow, blanks around them left out, and the place after them. -/
def lineEnds (isBlank : Char → Bool) (here : Cursor) : List Char × Cursor :=
  lineEndsFrom isBlank here.line here.column here.rest

end Cursor

/-- The text that line ends between two words stand for: a space for a single one, else all but the first. -/
def folded : List Char → List Char
  | ['\n'] => [' ']
  | '\n' :: breaks => breaks
  | breaks => breaks

end LinkedData.Yaml
