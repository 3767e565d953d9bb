import LinkedData.Toml.Scalar
import LinkedData.Value.Mapping

/-!
# TOML documents

* `readValue`: strings, times, numbers, truth values, arrays and inline tables;
* `Document`: the tables read so far, and which of them may not be defined again or added to;
* `read`: a document line by line. A key that is set twice, a table that is opened twice and a table in the place of
  a value make it invalid. A table of an array is a new one each time that it is opened.
-/

namespace LinkedData.Toml

/-! ### tables -/

/-- What comes into the place of a value if the entries below it are changed by `f`. There are none below nothing, and
those below an array are those of its last table. -/
def changeBelow? (f : Entries → Option Entries) : Option Value → Option Value
  | none => (f []).map .map
  | some (.map below) => (f below).map .map
  | some (.list items) =>
    match items.getLast? with
    | some (.map below) => (f below).map fun below => .list (items.dropLast ++ [.map below])
    | _ => none
  | some _ => none

/-- The entries below `path` changed by `f`; tables on the way are created, a value on the way refuses. -/
def changeAt? (f : Entries → Option Entries) : List String → Entries → Option Entries
  | [], es => f es
  | name :: path, es =>
    (changeBelow? (changeAt? f path) (Entries.lookup? es name)).map fun v => Entries.insert es (.str name) v

/-- A new entry; none if there is one under the name. -/
def insertNew? (name : String) (v : Value) (es : Entries) : Option Entries :=
  if (Entries.lookup? es name).isSome then none else some (Entries.insert es (.str name) v)

/-- A new table at the end of an array; another value refuses. -/
def appendTable? (name : String) (es : Entries) : Option Entries :=
  match Entries.lookup? es name with
  | none => some (Entries.insert es (.str name) (.list [.map []]))
  | some (.list items) => some (Entries.insert es (.str name) (.list (items ++ [.map []])))
  | some _ => none

/-! ### values -/

/-- The value is a table or an array, to which only its own text may add. -/
def isClosed : Value → Bool
  | .map _ | .list _ => true
  | _ => false

/-- Blanks, line ends and comments. -/
def skipLines : Nat → List Char → Option (List Char)
  | 0, cs => some cs
  | fuel + 1, cs =>
    match skipSpaces cs with
    | '\n' :: rest => skipLines fuel rest
    | '#' :: rest =>
      if (rest.takeWhile (· != '\n')).any isForbidden then none
      else skipLines fuel (rest.dropWhile (· != '\n'))
    | rest => some rest

/-- The proper beginnings of a key. -/
def properBeginnings (path : List String) : List (List String) :=
  (List.range' 1 (path.length - 1)).map path.take

mutual
/-- A value at the beginning of a text. -/
def readValue : Nat → List Char → Read (Value × List Char)
  | 0, _ => .error .malformed
  | fuel + 1, cs =>
    match cs with
    | '\x22' :: _ => (required (readString? cs)).map fun (s, rest) => (.str (String.ofList s), rest)
    | '\x27' :: _ => (required (readString? cs)).map fun (s, rest) => (.str (String.ofList s), rest)
    | 't' :: 'r' :: 'u' :: 'e' :: rest => .ok (.bool true, rest)
    | 'f' :: 'a' :: 'l' :: 's' :: 'e' :: rest => .ok (.bool false, rest)
    | '[' :: rest => (readItems fuel rest).map fun (items, rest) => (.list items, rest)
    | '\x7b' :: rest =>
      match skipSpaces rest with
      | '\x7d' :: rest => .ok (.map [], rest)
      | rest => (readFields fuel [] [] rest).map fun (entries, rest) => (.map entries, rest)
    | _ =>
      match readMoment? cs with
      | some read => read.map fun (moment, rest) => (.scalar moment, rest)
      | none => readNumber cs
/-- The rest of an array. -/
def readItems : Nat → List Char → Read (List Value × List Char)
  | 0, _ => .error .malformed
  | fuel + 1, cs => do
    match ← required (skipLines cs.length cs) with
    | ']' :: rest => return ([], rest)
    | cs =>
      let (v, rest) ← readValue fuel cs
      match ← required (skipLines rest.length rest) with
      | ',' :: rest =>
        let (vs, rest) ← readItems fuel rest
        return (v :: vs, rest)
      | ']' :: rest => return ([v], rest)
      | _ => throw .malformed
/-- The rest of an inline table with at least one more field, after the given entries; tables and arrays at the
paths `closed` are values of it and may not be added to. -/
def readFields : Nat → List (List String) → Entries → List Char → Read (Entries × List Char)
  | 0, _, _, _ => .error .malformed
  | fuel + 1, closed, entries, cs => do
    let (path, rest) ← required (readKey? cs.length (skipSpaces cs))
    match rest with
    | '=' :: rest =>
      let (v, rest) ← readValue fuel (skipSpaces rest)
      if (path :: properBeginnings path).any closed.contains then throw .malformed
      else
        let entries ← required (changeAt? (insertNew? (path.getLastD "") v) path.dropLast entries)
        let closed := if isClosed v then path :: closed else closed
        match skipSpaces rest with
        | ',' :: rest => readFields fuel closed entries rest
        | '\x7d' :: rest => return (entries, rest)
        | _ => throw .malformed
    | _ => throw .malformed
end

/-! ### documents -/

/-- A document that is being read. -/
structure Document where
  entries : Entries
  /-- The table that keys belong to. -/
  header : List String
  /-- The tables that were opened by a header or, before the last header, by a key with dots. -/
  opened : List (List String)
  /-- The tables that were opened by a key with dots since the last header. -/
  pending : List (List String)
  /-- The tables and arrays that are values, which may not be added to. -/
  frozen : List (List String)

/-- A document before its first line. -/
def Document.empty : Document := ⟨[], [], [], [], []⟩

/-- The path leads to a value or to a part of one. -/
def Document.isFrozen (d : Document) (path : List String) : Bool := d.frozen.any (·.isPrefixOf path)

/-- The document with a key set in the table of the last header. -/
def Document.setKey? (d : Document) (key : List String) (v : Value) : Option Document :=
  let onTheWay := (properBeginnings key).map (d.header ++ ·)
  let table := d.header ++ key.dropLast
  if onTheWay.any d.opened.contains || d.isFrozen table then none
  else
    (changeAt? (insertNew? (key.getLastD "") v) table d.entries).map fun entries =>
      let frozen := if isClosed v then (d.header ++ key) :: d.frozen else d.frozen
      { d with entries := entries, pending := onTheWay ++ d.pending, frozen := frozen }

/-- The document with a table opened. -/
def Document.openTable? (d : Document) (path : List String) : Option Document :=
  let opened := d.pending ++ d.opened
  if opened.contains path || d.isFrozen path then none
  else
    (changeAt? some path d.entries).map fun entries =>
      { d with entries := entries, header := path, opened := path :: opened, pending := [] }

/-- The document with a new table of an array opened. What was opened below the earlier ones may be opened in it too. -/
def Document.openItem? (d : Document) (path : List String) : Option Document :=
  if d.isFrozen path then none
  else
    let isElsewhere := fun other : List String => !path.isPrefixOf other
    (changeAt? (appendTable? (path.getLastD "")) path.dropLast d.entries).map fun entries =>
      { entries := entries, header := path, opened := path :: (d.pending ++ d.opened).filter isElsewhere, pending := []
        frozen := d.frozen.filter isElsewhere }

/-- One statement at the beginning of a line, if there is one. -/
def Document.readStatement (d : Document) (cs : List Char) : Read (Document × List Char) :=
  match cs with
  | '[' :: '[' :: rest => do
    let (path, rest) ← required (readKey? rest.length (skipSpaces rest))
    let d ← required (d.openItem? path)
    match rest with
    | ']' :: ']' :: rest => return (d, rest)
    | _ => throw .malformed
  | '[' :: rest => do
    let (path, rest) ← required (readKey? rest.length (skipSpaces rest))
    match rest with
    | ']' :: rest => return (← required (d.openTable? path), rest)
    | _ => throw .malformed
  | c :: _ =>
    if c = '#' ∨ c = '\n' then .ok (d, cs)
    else do
      let (key, rest) ← required (readKey? cs.length cs)
      match rest with
      | '=' :: rest =>
        let (v, rest) ← readValue (2 * rest.length + 2) (skipSpaces rest)
        return (← required (d.setKey? key v), rest)
      | _ => throw .malformed
  | [] => .ok (d, [])

/-- The lines of a document, at most `fuel` of them. -/
def Document.readLines (d : Document) : Nat → List Char → Read Document
  | 0, cs => if cs.isEmpty then .ok d else .error .malformed
  | fuel + 1, cs => do
    let (d, rest) ← d.readStatement (skipSpaces cs)
    let rest := skipSpaces rest
    let comment := if rest.head? = some '#' then rest.takeWhile (· != '\n') else []
    if (comment.drop 1).any isForbidden then throw .malformed
    else
      match rest.drop comment.length with
      | [] => return d
      | '\n' :: rest => d.readLines fuel rest
      | _ => throw .malformed

/-- A text with a line feed for each carriage return and line feed. -/
def lineFeeds : List Char → List Char
  | [] => []
  | '\r' :: '\n' :: cs => '\n' :: lineFeeds cs
  | c :: cs => c :: lineFeeds cs

/-- The entries of a document. -/
def read (text : String) : Read Entries :=
  let cs := lineFeeds text.toList
  (Document.empty.readLines (cs.length + 1) cs).map (·.entries)

end LinkedData.Toml
