import LinkedData.Text.Escape
import LinkedData.Text.Half
import LinkedData.Yaml.Cursor
import LinkedData.Reading

/-!
# Written scalars

Readers of the text of a scalar. They begin at the first character of a scalar and give its text and the place after
it. A scalar may go over several lines; the line ends are folded.

* `readPlain`: a scalar without quotes. What ends it depends on whether it stands in brackets, `flow`; outside of them
  a line of it begins at the column `floor` or later;
* `readQuoted`: a scalar in single or double quotes.
-/

namespace LinkedData.Yaml

open Text

/-! ### without quotes -/

/-- A comma or a bracket. -/
def isFlowMark (c : Char) : Bool := ",[]\x7b\x7d".toList.contains c

/-- The character `c` before `next`, after at least one space if `spaced`, is not part of a scalar without quotes. -/
def endsPlain (flow spaced : Bool) (c : Char) (next : Option Char) : Bool :=
  c == '\t' || isBreak c || (spaced && c == '#') ||
    (c == ':' && (isGap next || (flow && next.any isFlowMark))) ||
    (flow && (c == '?' || isFlowMark c))

/-- A scalar without quotes may begin at the place. -/
def startsPlain (flow : Bool) (here : Cursor) : Bool :=
  match here.rest with
  | [] => false
  | c :: cs =>
    !here.isMarker && !isGap c &&
      (!"-?:,[]\x7b\x7d#&*!|>\x27\x22%@\x60".toList.contains c ||
        (!isGap cs.head? && (c == '-' || (!flow && (c == '?' || c == ':')))))

/-- A line of a scalar without quotes, after so many spaces, and the place where it ends. -/
def plainLineFrom (flow : Bool) (line column spaces : Nat) : List Char → List Char × Cursor
  | [] => ([], ⟨line, column, []⟩)
  | c :: cs =>
    if c = ' ' then plainLineFrom flow line (column + 1) (spaces + 1) cs
    else if endsPlain flow (spaces != 0) c cs.head? then ([], ⟨line, column, c :: cs⟩)
    else
      let (text, stop) := plainLineFrom flow line (column + 1) 0 cs
      (List.replicate spaces ' ' ++ c :: text, stop)

/-- A line of a scalar without quotes, and the place where it ends. -/
def plainLine (flow : Bool) (here : Cursor) : List Char × Cursor :=
  plainLineFrom flow here.line here.column 0 here.rest

/-- A scalar without quotes goes on at the place, the first one on its line that is not blank. -/
def continuesPlain (flow : Bool) (floor : Nat) (here : Cursor) : Bool :=
  match here.rest with
  | [] => false
  | c :: cs => !here.isMarker && (flow || floor ≤ here.column) && !endsPlain flow true c cs.head?

/-- A scalar without quotes of at most `fuel` lines. -/
def readPlainLines (flow : Bool) (floor : Nat) : Nat → Cursor → List Char × Cursor
  | 0, here => ([], here)
  | fuel + 1, here =>
    let (text, stop) := plainLine flow here
    let (breaks, next) := stop.lineEnds (· == ' ')
    if !breaks.isEmpty && continuesPlain flow floor next then
      let (more, stop) := readPlainLines flow floor fuel next
      (text ++ folded breaks ++ more, stop)
    else (text, stop)

/-- A scalar without quotes. -/
def readPlain (flow : Bool) (floor : Nat) (here : Cursor) : List Char × Cursor :=
  readPlainLines flow floor (here.rest.length + 1) here

/-! ### in quotes -/

/-- The characters that a backslash and a single character stand for. -/
def shortEscapes : List (Char × Char) :=
  [('0', '\x00'), ('a', '\x07'), ('b', '\x08'), ('t', '\t'), ('\t', '\t'), ('n', '\n'), ('v', '\x0b'), ('f', '\x0c'),
   ('r', '\r'), ('e', '\x1b'), (' ', ' '), ('\x22', '\x22'), ('\\', '\\'), ('/', '/'), ('N', '\u0085'),
   ('_', '\u00a0'), ('L', '\u2028'), ('P', '\u2029')]

/-- The number of hexadecimal digits after a backslash and each of these characters. -/
def escapeWidths : List (Char × Nat) := [('x', 2), ('u', 4), ('U', 8)]

/-- The text of a code. -/
def readCode (code : Nat) : Read (List Char) :=
  match textOfCode? code with
  | some text => .ok text
  | none => .error (if code < Nat.pow 2 31 then .failure .denotesNothing else .failure .outOfRange)

/-- The text that a backslash and what follows it stand for, and the length of what follows it. -/
def readEscape (cs : List Char) : Read (List Char × Nat) :=
  match cs with
  | [] => .error .malformed
  | c :: cs =>
    match shortEscapes.lookup c, escapeWidths.lookup c with
    | some d, _ => .ok ([d], 1)
    | none, some width => do
      let (code, _) ← required (readHex? width cs)
      return (← readCode code, width + 1)
    | none, none => .error .malformed

/-- The rest of a scalar in quotes, in at most `fuel` steps. -/
def readQuotedRest (quote : Char) : Nat → Cursor → Read (List Char × Cursor)
  | 0, _ => .error .malformed
  | fuel + 1, here =>
    match here.rest with
    | [] => .error .malformed
    | c :: cs =>
      if c = quote then
        if quote = '\x27' ∧ cs.head? = some quote then continued fuel [quote] (here.drop 2)
        else .ok ([], here.drop 1)
      else if c = '\\' ∧ quote = '\x22' then
        if cs.head?.any isBreak then
          let (breaks, next) := (⟨here.line + 1, 0, cs.drop 1⟩ : Cursor).lineEnds isSpacing
          if next.isMarker then .error .malformed else continued fuel breaks next
        else
          match readEscape cs with
          | .ok (text, width) => continued fuel text (here.drop (width + 1))
          | .error e => .error e
      else if isGap c then
        let (breaks, next) := here.lineEnds isSpacing
        if breaks.isEmpty then continued fuel ((c :: cs).takeWhile isSpacing) next
        else if next.isMarker then .error .malformed
        else continued fuel (folded breaks) next
      else continued fuel [c] (here.drop 1)
where
  /-- The text before a place and the rest of the scalar from there on. -/
  continued (fuel : Nat) (text : List Char) (here : Cursor) : Read (List Char × Cursor) :=
    (readQuotedRest quote fuel here).map fun (more, stop) => (text ++ more, stop)

/-- A quote stands at the place. -/
def isQuote (here : Cursor) : Bool := here.next? == some '\x22' || here.next? == some '\x27'

/-- A scalar in quotes. -/
def readQuoted (here : Cursor) : Read (List Char × Cursor) :=
  match here.rest with
  | '\x22' :: rest => readQuotedRest '\x22' (rest.length + 1) (here.drop 1)
  | '\x27' :: rest => readQuotedRest '\x27' (rest.length + 1) (here.drop 1)
  | _ => .error .malformed

end LinkedData.Yaml
