import LinkedData.Text.CellWidth
import LinkedData.Text.Emoji
import LinkedData.Text.Quoted

/-!
# Lines on the console

The console reads some texts in square brackets as tags, and names between colons as emojis. Tags in a message are
shown as they are, but a backslash before another bracket is left out.

* `tag?`: a tag at the beginning of a text;
* `pieces`: the tags of a message and what stands between them, each of which is read for emojis by itself;
* `expandTabs`: a text with spaces up to every eighth column for its tabs;
* `shownLine`: how a message is shown after a label.
-/

namespace LinkedData.CommandLine

open Text

/-! ### tags -/

/-- A character that a tag may begin with. -/
def startsTag (c : Char) : Bool := ('a' ≤ c && c ≤ 'z') || c == '#' || c == '/' || c == '@'

/-- The tag after an opening bracket, and what follows it. -/
def tag? : List Char → Option (List Char × List Char)
  | [] => none
  | c :: cs =>
    let name := cs.takeWhile fun d => d != '[' && d != ']'
    match cs.drop name.length with
    | ']' :: rest => if startsTag c then some (c :: name ++ [']'], rest) else none
    | _ => none

/-- A text, from its end to its beginning, without a backslash at its end. -/
def withoutBackslash : List Char → List Char
  | '\\' :: seen => seen
  | seen => seen

/-- The pieces of a message, of which `seen` is the beginning of the first one, from its end to its beginning. -/
def piecesFrom : Nat → List Char → List Char → List (List Char)
  | 0, seen, _ => [seen.reverse]
  | _ + 1, seen, [] => [seen.reverse]
  | fuel + 1, seen, c :: cs =>
    if c = '[' then
      match tag? cs with
      | some (tag, rest) => seen.reverse :: ('[' :: tag) :: piecesFrom fuel [] rest
      | none => piecesFrom fuel ('[' :: withoutBackslash seen) cs
    else piecesFrom fuel (c :: seen) cs

/-- A message that ends in a single backslash ends in two. -/
def doubledBackslash (cs : List Char) : List Char :=
  match cs.reverse with
  | '\\' :: '\\' :: _ => cs
  | '\\' :: _ => cs ++ ['\\']
  | _ => cs

/-- The tags of a message and what stands between them. -/
def pieces (message : List Char) : List (List Char) :=
  let cs := doubledBackslash message
  piecesFrom (cs.length + 1) [] cs

/-! ### columns -/

/-- A control character that is not shown. -/
def isHidden (c : Char) : Bool := ['\x07', '\x08', '\x0b', '\x0c', '\r'].contains c

/-- What stands between the tabs of a line, with spaces in their place, from the given column on. -/
def fillColumns (column : Nat) : List (List Char) → List Char
  | [] => []
  | [last] => last
  | part :: parts =>
    let filled := part ++ [' ']
    let width := column + cellLength filled
    let missing := (8 - width % 8) % 8
    filled ++ List.replicate missing ' ' ++ fillColumns (width + missing) parts

/-- A text with spaces up to every eighth column for its tabs. -/
def expandTabs (cs : List Char) : List Char :=
  List.intercalate ['\n'] ((cs.splitOn '\n').map fun line => fillColumns 0 (line.splitOn '\t'))

/-! ### lines -/

/-- A character, or the escape of a half. -/
def shownUnit : TextUnit → List Char
  | .char c => [c]
  | .half code => codeEscape code

/-- How a message is shown after a label. -/
def shownLine (label message : String) : String :=
  let shown := ((pieces message.toList).flatMap withEmojis).filter fun c => !isHidden c
  String.ofList ((unitsOf (expandTabs (label.toList ++ ':' :: ' ' :: shown))).flatMap shownUnit)

end LinkedData.CommandLine
