import LinkedData.Failure

/-!
# Filters of looked-up values

* `Filter`: a function on values that may fail;
* `Registry`: named filters in the order of their registration; registering a name again replaces its filter;
* `minutes`: a number of minutes as a duration; whole numbers have no fraction;
* `Registry.standard`: the registry with the filter for minutes alone;
* `Registry.extend`: a registry with more filters, which may have any names but one;
* `Registry.apply`: a value sent through named filters from left to right.
-/

namespace LinkedData

open Numeric

/-- A function on looked-up values. -/
abbrev Filter := Value → Except Failure Value

/-! ### durations -/

/-- The name of the filter for minutes. -/
def minutesName : String := "iso8601minutes"

/-- A duration of so many minutes, given the text of their number. -/
def durationText (number : List Char) : String := String.ofList ('P' :: 'T' :: number ++ ['M'])

/-- A number of minutes as a duration. -/
def minutes : Filter
  | .int n => if isWritable n then .ok (.str (durationText (intText n))) else .error .overlongInteger
  | .float x =>
    if x.isFinite then
      match x.integer? with
      | some n => .ok (.str (durationText (intText n)))
      | none => .ok (.str (durationText x.text))
    else .error (.fault (.filterType minutesName "a finite number" (.float x)))
  | v => .error (.ofFault (.filterType minutesName "a number" v))

/-! ### registries -/

/-- Named filters. -/
structure Registry where
  filters : List (String × Filter)

namespace Registry

/-- No filters. -/
def empty : Registry := ⟨[]⟩

/-- The filter for minutes. -/
def standard : Registry := ⟨[(minutesName, minutes)]⟩

/-- The names of the filters, in the order of their registration. -/
def names (r : Registry) : List String := r.filters.map Prod.fst

/-- The number of filters. -/
def size (r : Registry) : Nat := r.filters.length

/-- The names of the filters by code points. -/
def sortedNames (r : Registry) : List String := r.names.mergeSort fun a b => !decide (b < a)

/-- The filter of a name. -/
def get? (r : Registry) (name : String) : Option Filter := r.filters.lookup name

/-- The registry has a filter of the name. -/
def contains (r : Registry) (name : String) : Bool := (r.get? name).isSome

/-- Registers a filter: in place of the one of the same name, if there is one, else as the last. -/
def register {α : Type} : List (String × α) → String → α → List (String × α)
  | [], name, f => [(name, f)]
  | (other, g) :: rest, name, f =>
    if other = name then (name, f) :: rest else (other, g) :: register rest name f

/-- The name that no filter can have in an extension: it is that of the registry which is extended. -/
def takenName : String := "self"

/-- The registry with more filters, registered one after the other. -/
def extend (r : Registry) (more : List (String × Filter)) : Except Failure Registry :=
  if more.any fun e => e.1 = takenName then .error .filterNameTaken
  else .ok ⟨more.foldl (fun acc e => register acc e.1 e.2) r.filters⟩

/-- The registry extended one time after the other. -/
def extendAll (r : Registry) : List (List (String × Filter)) → Except Failure Registry
  | [] => .ok r
  | more :: steps => do
    let extended ← r.extend more
    extended.extendAll steps

/-- Sends a value through named filters. -/
def apply (r : Registry) (value : Value) : List String → Except Failure Value
  | [] => .ok value
  | name :: rest =>
    match r.get? name with
    | none => .error (.fault (.unknownFilter name r.sortedNames))
    | some f =>
      match f value with
      | .error e => .error e
      | .ok w => r.apply w rest

/-- A registry as messages show it. -/
def literal (r : Registry) : String :=
  let names := r.sortedNames.map fun name => Text.quoted name.toList
  "FilterRegistry([" ++ String.ofList (commaSeparated names) ++ "])"

end Registry

end LinkedData
