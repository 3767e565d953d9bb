import LinkedData.Value.Mapping
import LinkedData.Yaml.Plain

/-!
# Nodes

* `Node`: a scalar with or without quotes, a list, or a mapping as it is written, or one that is said to be a text;
* `Faults`: why scalars have no value, and why keys are no keys, by their depth;
* `Reading`: a value, with what is wrong in it; `Node.reading` is that of a node;
* `Node.value`: the value of a node, if nothing is wrong in it. Of several faults the least deep one counts, and of
  these the first.

Keys have to be scalars; of entries with the same key the last one counts, in the place of the first. The entries of a
mapping under the key `<<`, or of several in a list, come before the other ones of the mapping that the key stands in.
-/

namespace LinkedData.Yaml

/-- A part of a text as it is written. -/
inductive Node where
  /-- A scalar without quotes. -/
  | plain (text : List Char)
  /-- A scalar that is a text whatever its form. -/
  | text (text : List Char)
  | list (items : List Node)
  | map (entries : List (Node × Node))
  /-- A list or mapping that is said to be a text. -/
  | noText
deriving Inhabited

/-! ### faults by depth -/

/-- Faults by their depth, those at the root first. -/
abbrev Faults := List (List ReadError)

namespace Faults

/-- The faults of two parts of the same depth. -/
def both : Faults → Faults → Faults
  | [], more => more
  | faults, [] => faults
  | level :: faults, level' :: more => (level ++ level') :: both faults more

/-- The faults of a part as those of the whole that it stands in. -/
def below (faults : Faults) : Faults := [] :: faults

/-- The fault that counts, if there is one. -/
def first? (faults : Faults) : Option ReadError := faults.flatten.head?

end Faults

/-- A value with what is wrong in it. -/
structure Reading (α : Type) where
  value : α
  faults : Faults

namespace Reading

/-- Nothing is wrong in a value. -/
def sound {α : Type} (value : α) : Reading α := ⟨value, []⟩

/-- There is no value. -/
def fault {α : Type} [Inhabited α] (e : ReadError) : Reading α := ⟨default, [[e]]⟩

/-- The reading of what may be refused. -/
def ofRead {α : Type} [Inhabited α] : Read α → Reading α
  | .ok a => sound a
  | .error e => fault e

/-- Two readings together. -/
def both {α β γ : Type} (f : α → β → γ) (a : Reading α) (b : Reading β) : Reading γ :=
  ⟨f a.value b.value, a.faults.both b.faults⟩

/-- Two runs of entries, one after the other. -/
def append {α : Type} (a b : Reading (List α)) : Reading (List α) := both (· ++ ·) a b

/-- The whole that has the given parts. -/
def whole {α β : Type} (f : α → β) (a : Reading α) : Reading β := ⟨f a.value, a.faults.below⟩

end Reading

/-- The entries of a mapping: those that are merged into it, and its own. -/
structure EntryReading where
  /-- Something else than a mapping is to be merged. -/
  refused : Bool
  merged : Reading Entries
  own : Reading Entries

namespace EntryReading

/-- No entries. -/
def none : EntryReading := ⟨false, .sound [], .sound []⟩

/-- All entries; what can not be merged is the first fault. -/
def all (e : EntryReading) : Reading Entries :=
  let entries := e.merged.append e.own
  if e.refused then { entries with faults := Faults.both [[.malformed]] entries.faults } else entries

/-- One more entry of its own in front. -/
def cons (entry : Reading Entries) (e : EntryReading) : EntryReading := { e with own := entry.append e.own }

/-- More entries merged in front. -/
def merge (inner e : EntryReading) : EntryReading :=
  { e with refused := inner.refused || e.refused, merged := (inner.merged.append inner.own).append e.merged }

/-- Something else than a mapping in the place of one. -/
def refuse (e : EntryReading) : EntryReading := { e with refused := true }

/-- The entries of several mappings of which the later ones come first. -/
def behind (inner e : EntryReading) : EntryReading :=
  { e with refused := inner.refused || e.refused, merged := e.merged.append (inner.merged.append inner.own) }

end EntryReading

namespace Node

/-- Nothing is written. -/
def absent : Node := .plain []

/-- The key that a node is. -/
def key : Node → Read Key
  | .text cs => .ok (.str (String.ofList cs))
  | .plain ['='] => .ok (.str "=")
  | .plain cs =>
    match plainValue cs with
    | .ok (.scalar s) => .ok (.scalar s)
    | .ok _ => .error .malformed
    | .error e => .error e
  | .list _ | .map _ | .noText => .error .malformed

/-- The key under which entries to be merged stand. -/
def isMergeKey : Node → Bool
  | .plain ['<', '<'] => true
  | _ => false

/-- An entry with a key of its own; without a key, its value does not matter. -/
def entryReading (k : Node) (value : Reading Value) : Reading Entries :=
  match k.key with
  | .ok key => ⟨[(key, value.value)], value.faults⟩
  | .error e => .fault e

mutual
/-- The reading of a node. -/
def reading : Node → Reading Value
  | .plain cs => .ofRead (plainValue cs)
  | .text cs => .sound (.str (String.ofList cs))
  | .noText => .fault .malformed
  | .list items => .whole .list (readingL items)
  | .map entries => .whole (fun es => .map (Entries.ofList es)) (readingE entries).all
def readingL : List Node → Reading (List Value)
  | [] => .sound []
  | n :: ns => .both List.cons n.reading (readingL ns)
/-- The entries of a mapping. -/
def readingE : List (Node × Node) → EntryReading
  | [] => .none
  | (k, n) :: es =>
    if k.isMergeKey then
      match n with
      | .map entries => (readingE entries).merge (readingE es)
      | .list items => (readingM items).merge (readingE es)
      | .plain _ | .text _ | .noText => (readingE es).refuse
    else .cons (entryReading k n.reading) (readingE es)
/-- The entries of all mappings in a list. -/
def readingM : List Node → EntryReading
  | [] => .none
  | n :: ns =>
    match n with
    | .map entries => (readingE entries).behind (readingM ns)
    | .list _ | .plain _ | .text _ | .noText => (readingM ns).refuse
end

/-- The value of a node. -/
def value (n : Node) : Read Value :=
  match n.reading.faults.first? with
  | none => .ok n.reading.value
  | some e => .error e

end Node

end LinkedData.Yaml
