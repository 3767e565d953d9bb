import LinkedData.Calendar.Timestamp
import LinkedData.Text.Digit
import LinkedData.Text.Quoted
import LinkedData.Value.Basic

/-!
# How values are shown

* `Value.typeName`: the name of a value's type in messages;
* `Value.literal`: a value as a literal, as messages show it;
* `Value.display`: a value as text, which differs for texts, dates and times and decimals;
* `Value.isWritable`: values without an integer that is too long to be written;
* `Value.isVoid`: values that count as absent where a default may take their place.
-/

namespace LinkedData

open Calendar Numeric Text

/-! ### scalars -/

/-- The name of a scalar's type. -/
def Scalar.typeName : Scalar → String
  | .null => "NoneType"
  | .bool _ => "bool"
  | .int _ => "int"
  | .float _ => "float"
  | .str _ => "str"
  | .bytes _ => "bytes"
  | .date _ => "date"
  | .datetime _ => "datetime"
  | .time _ => "time"
  | .decimal _ => "Decimal"

/-- An offset as a literal: whole days and the seconds on top of them. -/
def offsetLiteral (o : Offset) : List Char :=
  if o.val = 0 then "datetime.timezone.utc".toList
  else
    let span := if o.val < 0 then "days=-1, seconds=".toList ++ intText (o.val + 86400)
      else "seconds=".toList ++ intText o.val
    "datetime.timezone(datetime.timedelta(".toList ++ span ++ "))".toList

/-- Texts with commas between them. -/
def commaSeparated (parts : List (List Char)) : List Char := List.intercalate [',', ' '] parts

/-- The seconds of a literal, which are left out if they and the microseconds are zero. -/
def secondFields (second microsecond : Nat) : List Nat :=
  if microsecond ≠ 0 then [second, microsecond] else if second ≠ 0 then [second] else []

/-- A time of the day as a literal. -/
def timeLiteral (t : Time) : List Char :=
  let fields := [t.hour.val, t.minute.val] ++ secondFields t.second.val t.microsecond.val
  "datetime.time(".toList ++ commaSeparated (fields.map natText) ++ [')']

/-- A time as a literal. -/
def dateTimeLiteral (t : DateTime) : List Char :=
  let fields := [t.date.year, t.date.month, t.date.day, t.hour.val, t.minute.val] ++
    secondFields t.second.val t.microsecond.val
  let zone := match t.offset with
    | none => []
    | some o => ["tzinfo=".toList ++ offsetLiteral o]
  "datetime.datetime(".toList ++ commaSeparated (fields.map natText ++ zone) ++ [')']

/-- A scalar as a literal. -/
def Scalar.literal : Scalar → List Char
  | .null => "None".toList
  | .bool b => if b then "True".toList else "False".toList
  | .int n => intText n
  | .float x => x.text
  | .str s => quoted s.toList
  | .bytes octets => quotedBytes octets
  | .date d => "datetime.date(".toList ++ commaSeparated ([d.year, d.month, d.day].map natText) ++ [')']
  | .datetime t => dateTimeLiteral t
  | .time t => timeLiteral t
  | .decimal d => "Decimal('".toList ++ d.text ++ "')".toList

/-- A scalar as text. -/
def Scalar.display : Scalar → List Char
  | .str s => s.toList
  | .date d => d.text
  | .datetime t => t.text ' '
  | .time t => t.text
  | .decimal d => d.text
  | s => s.literal

/-! ### values -/

/-- Parts in round brackets, a comma after a single one. -/
def bracketed (parts : List (List Char)) : List Char :=
  match parts with
  | [part] => '(' :: part ++ [',', ')']
  | parts => '(' :: commaSeparated parts ++ [')']

mutual
/-- A key as a literal. -/
def Key.literal : Key → List Char
  | .scalar s => s.literal
  | .tuple parts => bracketed (Key.literalL parts)
def Key.literalL : List Key → List (List Char)
  | [] => []
  | k :: ks => k.literal :: Key.literalL ks
end

/-- The members of a set as a literal. -/
def setLiteral (members : List Key) : List Char :=
  if members.isEmpty then "set()".toList
  else '\x7b' :: commaSeparated (members.map Key.literal) ++ ['\x7d']

mutual
/-- A value as a literal. -/
def Value.literal : Value → List Char
  | .scalar s => s.literal
  | .set members => setLiteral members
  | .list items => '[' :: commaSeparated (Value.literalL items) ++ [']']
  | .tuple items => bracketed (Value.literalL items)
  | .map entries => '\x7b' :: commaSeparated (Value.literalE entries) ++ ['\x7d']
def Value.literalL : List Value → List (List Char)
  | [] => []
  | v :: vs => v.literal :: Value.literalL vs
def Value.literalE : List (Key × Value) → List (List Char)
  | [] => []
  | (k, v) :: es => (k.literal ++ ':' :: ' ' :: v.literal) :: Value.literalE es
end

/-- The name of a value's type. -/
def Value.typeName : Value → String
  | .scalar s => s.typeName
  | .set _ => "set"
  | .list _ => "list"
  | .tuple _ => "tuple"
  | .map _ => "dict"

/-- A value as text. -/
def Value.display : Value → List Char
  | .scalar s => s.display
  | v => v.literal

/-! ### integers that are too long -/

/-- An integer of no more digits than are written. -/
def isWritable (n : Int) : Bool := n.natAbs < Nat.pow 10 digitLimit

/-- All integers of a scalar can be written. -/
def Scalar.isWritable : Scalar → Bool
  | .int n => LinkedData.isWritable n
  | _ => true

mutual
/-- All integers of a key can be written. -/
def Key.isWritable : Key → Bool
  | .scalar s => s.isWritable
  | .tuple parts => Key.isWritableL parts
def Key.isWritableL : List Key → Bool
  | [] => true
  | k :: ks => k.isWritable && Key.isWritableL ks
end

mutual
/-- All integers of a value can be written. -/
def Value.isWritable : Value → Bool
  | .scalar s => s.isWritable
  | .set members => Key.isWritableL members
  | .list items => Value.isWritableL items
  | .tuple items => Value.isWritableL items
  | .map entries => Value.isWritableE entries
def Value.isWritableL : List Value → Bool
  | [] => true
  | v :: vs => v.isWritable && Value.isWritableL vs
def Value.isWritableE : List (Key × Value) → Bool
  | [] => true
  | (k, v) :: es => k.isWritable && v.isWritable && Value.isWritableE es
end

/-! ### void values -/

/-- A value that a default takes the place of: nothing, zero, false, or empty. -/
def Value.isVoid : Value → Bool
  | .null => true
  | .bool b => !b
  | .int n => n == 0
  | .float x => x.isZero
  | .str s => s.isEmpty
  | .scalar (.bytes octets) => octets.isEmpty
  | .scalar (.decimal d) => d.isZero
  | .scalar _ => false
  | .set members => members.isEmpty
  | .list items => items.isEmpty
  | .tuple items => items.isEmpty
  | .map entries => entries.isEmpty

end LinkedData
