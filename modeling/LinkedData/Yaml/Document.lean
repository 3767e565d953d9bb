import LinkedData.Reading
import LinkedData.Yaml.Node
import LinkedData.Yaml.Scalar

/-!
# YAML documents

The part of the format that page data is written in: lists and mappings by indentation or in brackets, scalars with
and without quotes, comments, and the tag `!!str`, which makes a text of any scalar.

* `readFlow`: what stands in brackets, of which JSON is a part;
* `readBlock`: a list or mapping by indentation, or anything else at a place where one may begin. Its parts begin at
  the column `floor` or later, except that a list in a mapping may begin where the mapping does;
* `read`: the value of a document; a text without content has none.
-/

namespace LinkedData.Yaml

/-! ### scalars and keys -/

/-- The tag of texts stands at the place. -/
def isTextTag (here : Cursor) : Bool := "!!str".toList.isPrefixOf here.rest && isGap here.rest[5]?

/-- A scalar with or without quotes. -/
def readScalar (flow : Bool) (floor : Nat) (here : Cursor) : Read (Node × Cursor) :=
  if isQuote here then (readQuoted here).map fun (text, stop) => (.text text, stop)
  else if startsPlain flow here then
    let (text, stop) := readPlain flow floor here
    .ok (.plain text, stop)
  else .error .malformed

/-! ### ahead of nodes -/

/-- A bracket opens at the place. -/
def opensFlow (here : Cursor) : Bool := here.next? == some '[' || here.next? == some '\x7b'

/-- A bracket closes at the place. -/
def closesFlow (here : Cursor) : Bool := here.next? == some ']' || here.next? == some '\x7d'

/-- A mark between the parts of a list or mapping stands at the place. -/
def isMark (flow : Bool) (here : Cursor) : Bool :=
  match here.rest with
  | [] => false
  | c :: cs => c == ',' || (c == '-' && isGap cs.head?) || ((c == ':' || c == '?') && (flow || isGap cs.head?))

/-- The number of characters between a key and its colon, at most. -/
def keySpan : Nat := 1024

/-- Whether a node is a key shows only after it. So what follows a place, in the given number of brackets, is looked at
before the node at `key` is, up to a mark outside of these brackets, on the line of the key and not more than 1024
characters further on, and one part beyond; a `required` key ends on its line. Escapes that stand for no character are
refused. -/
def lookAhead (flow required : Bool) (key : Cursor) : Nat → Nat → Cursor → Read Unit
  | 0, _, _ => .ok ()
  | fuel + 1, level, here =>
    let next := here.skip
    let inFlow := flow || level != 0
    if here.line ≠ key.line ∨ key.column + keySpan < here.column ∨ (required ∧ next.line ≠ key.line) then .ok ()
    else if opensFlow next then lookAhead flow required key fuel (level + 1) (next.drop 1)
    else if closesFlow next || isMark inFlow next then
      if level = 0 then .ok ()
      else lookAhead flow required key fuel (if closesFlow next then level - 1 else level) (next.drop 1)
    else if isQuote next then
      match readQuoted next with
      | .ok (_, stop) => lookAhead flow required key fuel level stop
      | .error .malformed => .ok ()
      | .error e => .error e
    else if isTextTag next then lookAhead flow required key fuel level (next.drop 5)
    else if startsPlain inFlow next then lookAhead flow required key fuel level (readPlain inFlow 0 next).2
    else .ok ()

/-- What stands ahead of a node that may be a key. Every part has at least one character. -/
def ahead (flow required : Bool) (key : Cursor) : Read Unit := lookAhead flow required key (keySpan + 2) 0 key

/-- The refusal of what stands at a place, where a key may stand if `fresh` says so. What is ahead of it counts before
the refusal, and so does an escape in a scalar in quotes. -/
def refuse {α : Type} (fresh : Bool) (here : Cursor) : Read α := do
  if fresh then ahead false false here
  if isQuote here then
    let _ ← readQuoted here
  throw .malformed

/-! ### tags and keys -/

/-- A node with the tag of texts. -/
def Node.asText : Node → Node
  | .plain cs | .text cs => .text cs
  | .list _ | .map _ | .noText => .noText

/-- Nothing stands between a colon and this place in brackets. -/
def endsFlowValue (here : Cursor) : Bool :=
  here.next?.any fun c => c == ',' || c == ']' || c == '\x7d'

/-- A colon at the place belongs to the key that begins at `key`: on the same line, and not more than 1024 characters
further on. -/
def isColonOf (key here : Cursor) : Bool :=
  here.next? == some ':' && here.line == key.line && here.column ≤ key.column + keySpan

/-! ### in brackets -/

mutual
/-- A scalar, list or mapping in brackets. -/
def readFlow : Nat → Cursor → Read (Node × Cursor)
  | 0, _ => .error .malformed
  | fuel + 1, here =>
    match here.next? with
    | some '[' => (readItems fuel (here.drop 1)).map fun (items, stop) => (.list items, stop)
    | some '\x7b' => (readFields fuel (here.drop 1)).map fun (entries, stop) => (.map entries, stop)
    | _ =>
      if !isTextTag here then readScalar true 0 here
      else
        let next := (here.drop 5).skip
        if next.next? == some ':' || endsFlowValue next then .ok (.text [], here.drop 5)
        else if isTextTag next then .error .malformed
        else (readFlow fuel next).map fun (node, stop) => (node.asText, stop)
/-- A node in brackets and the value after a colon, if there is one. -/
def readPair : Nat → Cursor → Read ((Node × Option Node) × Cursor)
  | 0, _ => .error .malformed
  | fuel + 1, here => do
    ahead true false here
    let (key, stop) ← readFlow fuel here
    let colon := stop.skip
    if colon.next? ≠ some ':' then return ((key, none), stop)
    if !isColonOf here colon then throw .malformed
    let next := (colon.drop 1).skip
    if endsFlowValue next then return ((key, some .absent), next)
    let (value, stop) ← readFlow fuel next
    return ((key, some value), stop)
/-- The rest of a list in brackets. -/
def readItems : Nat → Cursor → Read (List Node × Cursor)
  | 0, _ => .error .malformed
  | fuel + 1, here => do
    if here.skip.next? = some ']' then return ([], here.skip.drop 1)
    let ((key, value?), stop) ← readPair fuel here.skip
    let item := match value? with
      | some value => .map [(key, value)]
      | none => key
    match stop.skip.next? with
    | some ',' =>
      let (items, stop) ← readItems fuel (stop.skip.drop 1)
      return (item :: items, stop)
    | some ']' => return ([item], stop.skip.drop 1)
    | _ => refuse false stop.skip
/-- The rest of a mapping in brackets. -/
def readFields : Nat → Cursor → Read (List (Node × Node) × Cursor)
  | 0, _ => .error .malformed
  | fuel + 1, here => do
    if here.skip.next? = some '\x7d' then return ([], here.skip.drop 1)
    let ((key, value?), stop) ← readPair fuel here.skip
    match stop.skip.next? with
    | some ',' =>
      let (entries, stop) ← readFields fuel (stop.skip.drop 1)
      return ((key, value?.getD .absent) :: entries, stop)
    | some '\x7d' => return ([(key, value?.getD .absent)], stop.skip.drop 1)
    | _ => refuse false stop.skip
end

/-- The fuel that suffices for what follows a place. -/
def fuelFor (here : Cursor) : Nat := 4 * here.rest.length + 4

/-! ### by indentation -/

/-- A node outside of brackets that may be a key, if there is one. -/
def readKeyNode? (tagged : Bool) (here first : Cursor) : Read (Option (Node × Cursor)) :=
  if startsPlain false first then
    let (text, stop) := plainLine false first
    .ok (some (.plain text, stop))
  else if tagged && first.next? == some ':' then .ok (some (.text [], here.drop 5))
  else if isQuote first then (readScalar false 0 first).map some
  else if opensFlow first then (readFlow (fuelFor first) first).map some
  else .ok none

/-- A key outside of brackets, if there is one, and the place after its colon. -/
def readKey? (here : Cursor) : Read (Option (Node × Cursor)) := do
  let tagged := isTextTag here
  let first := if tagged then (here.drop 5).skip else here
  match ← if first.line = here.line then readKeyNode? tagged here first else pure none with
  | none => return none
  | some (node, stop) =>
    let colon := stop.skip
    if isColonOf here colon && isGap colon.rest[1]? then
      return some (if tagged then node.asText else node, colon.drop 1)
    else return none

/-- A dash that begins an item of a list stands at the place. -/
def isDash (here : Cursor) : Bool := here.next? == some '-' && isGap here.rest[1]?

/-- What may follow a key or a dash on its line: a scalar, or something in brackets. -/
def readInline (floor : Nat) (here : Cursor) : Read (Node × Cursor) :=
  if opensFlow here then readFlow (fuelFor here) here else readScalar false floor here

mutual
/-- A list or mapping by indentation, if `fresh` says that one may begin at the place, or anything else. `listHere` tells
where a list may begin before the column `floor`. -/
def readBlock : Nat → Nat → Bool → (Cursor → Bool) → Cursor → Read (Node × Cursor)
  | 0, _, _, _, _ => .error .malformed
  | fuel + 1, floor, fresh, listHere, here => do
    if fresh then ahead false false here
    match ← if fresh then readKey? here else pure none with
    | some (key, stop) =>
      let (entries, stop) ← readEntries fuel here.column key stop
      return (.map entries, stop)
    | none =>
      if fresh && isDash here then
        let (items, stop) ← readDashes fuel here.column here
        return (.list items, stop)
      else if isTextTag here then
        (readTagged fuel floor listHere (here.drop 5)).map fun (node, stop) => (node.asText, stop)
      else readInline floor here
/-- What follows the tag of texts, from the place `stop` after it on. -/
def readTagged : Nat → Nat → (Cursor → Bool) → Cursor → Read (Node × Cursor)
  | 0, _, _, _ => .error .malformed
  | fuel + 1, floor, listHere, stop =>
    let next := stop.skip
    if next.isEnd || next.isMarker then .ok (.absent, stop)
    else if next.line = stop.line then readInline floor next
    else if floor ≤ next.column then do
      let isAlone ← if isTextTag next then (readKey? next).map (·.isNone) else pure false
      if isAlone then throw .malformed
      readBlock fuel floor true listHere next
    else if listHere next then
      (readDashes fuel next.column next).map fun (items, stop) => (.list items, stop)
    else .ok (.absent, stop)
/-- What follows a key or a dash at `column`, from the place `stop` after it on: on the same line, where `fresh` says
whether a list or mapping may begin, or further right on another line. `listHere` tells where a list may begin
besides. -/
def readPart : Nat → Nat → Bool → (Cursor → Bool) → Cursor → Read (Node × Cursor)
  | 0, _, _, _, _ => .error .malformed
  | fuel + 1, column, fresh, listHere, stop =>
    let next := stop.skip
    if next.isEnd then .ok (.absent, stop)
    else if next.line = stop.line then readBlock fuel (column + 1) fresh listHere next
    else if column < next.column then readBlock fuel (column + 1) true listHere next
    else if listHere next then
      (readDashes fuel column next).map fun (items, stop) => (.list items, stop)
    else .ok (.absent, stop)
/-- The entries of a mapping at `column`, from the value of a key on. -/
def readEntries : Nat → Nat → Node → Cursor → Read (List (Node × Node) × Cursor)
  | 0, _, _, _ => .error .malformed
  | fuel + 1, column, key, here => do
    let (value, stop) ← readPart fuel column false (fun next => next.column == column && isDash next) here
    let next := stop.skip
    let fresh := next.line != stop.line && next.column == column
    if fresh then ahead false true next
    match ← if fresh then readKey? next else pure none with
    | some (nextKey, here) =>
      let (entries, stop) ← readEntries fuel column nextKey here
      return ((key, value) :: entries, stop)
    | none => return ([(key, value)], stop)
/-- The items of a list at `column`, from a dash on. -/
def readDashes : Nat → Nat → Cursor → Read (List Node × Cursor)
  | 0, _, _ => .error .malformed
  | fuel + 1, column, here => do
    let (item, stop) ← readPart fuel column true (fun _ => false) (here.drop 1)
    let next := stop.skip
    if next.line ≠ stop.line ∧ next.column = column ∧ isDash next then
      let (items, stop) ← readDashes fuel column next
      return (item :: items, stop)
    else return ([item], stop)
end

/-! ### documents -/

/-- A character that a document may hold. -/
def isDocumentChar (c : Char) : Bool :=
  let n := c.toNat
  c == '\t' || c == '\n' || (0x20 ≤ n && n ≤ 0x7E) || n == 0x85 || (0xA0 ≤ n && n ≤ 0xFFFD) || 0x10000 ≤ n

/-- Nothing but, perhaps, the line that ends a document follows. -/
def endsDocument (here : Cursor) : Bool :=
  here.skip.isEnd || (here.skip.isMarker && here.skip.next? == some '.' && (here.skip.drop 3).skip.isEnd)

/-- The only node of a document. -/
def readDocument (text : List Char) : Read Node := do
  let text := if text.head? = some '\ufeff' then text.tail else text
  let first := (Cursor.start text).skip
  let marked := first.isMarker && first.next? == some '-'
  let start := if marked then first.drop 3 else first
  if first.isEnd || (marked && endsDocument start) then return .absent
  let (node, stop) ← readBlock (fuelFor start) 0 (!marked || start.skip.line != start.line) (fun _ => false) start.skip
  if endsDocument stop then return node else refuse (stop.skip.line != stop.line) stop.skip

/-- The value of a document. -/
def read (text : String) : Read Value := do
  let cs := Text.unixLines text.toList
  if cs.all isDocumentChar then (← readDocument cs).value else throw .malformed

end LinkedData.Yaml
