import LinkedData.Failure
import LinkedData.Text.Digit
import LinkedData.Value.Mapping

/-!
# Lookups along a path

* `Value.child?`: the part of a mapping, list or tuple that a segment names; a list is indexed by decimal digits of
  any script;
* `extract`: the value at the end of a path. Every step has to find a value other than null.
-/

namespace LinkedData

open Text

/-! ### one step -/

/-- A list or tuple. -/
def Value.isSequence : Value → Bool
  | .list _ | .tuple _ => true
  | _ => false

/-- A value with parts that a segment can name. -/
def Value.isContainer : Value → Bool
  | .map _ => true
  | v => v.isSequence

/-- The item at the index that a segment writes. -/
def itemAt? (items : List Value) (segment : String) : Option Value :=
  (readNat? segment.toList).bind fun n => items[n]?

/-- The part of a value that a segment names. -/
def Value.child? : Value → String → Option Value
  | .map entries, segment => Entries.lookup? entries segment
  | .list items, segment => itemAt? items segment
  | .tuple items, segment => itemAt? items segment
  | _, _ => none

/-- A segment that writes an index with too many digits. -/
def isOverlongIndex (segment : String) : Bool :=
  segment.toList.all isDecimal && digitLimit < segment.length

/-! ### paths -/

/-- Follows the rest of `path` from a value reached along its beginning. -/
def extractFrom (path : List String) : Value → List String → Except Failure Value
  | v, [] => .ok v
  | v, segment :: rest =>
    if !v.isContainer then .error (.fault (.notAnObject path segment))
    else if v.isSequence && isOverlongIndex segment then .error .overlongIndex
    else match v.child? segment with
      | none => .error (.fault (.notFound path))
      | some .null => .error (.fault (.notFound path))
      | some w => extractFrom path w rest

/-- The value that `path` leads to. -/
def extract (data : Value) (path : List String) : Except Failure Value := extractFrom path data path

end LinkedData
