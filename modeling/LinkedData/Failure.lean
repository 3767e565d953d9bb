import LinkedData.Reference
import LinkedData.Value.Literal

/-!
# What can go wrong

* `Fault`: the faults of structured data that are reported with the page they occur on;
* `Failure`: everything that ends an operation without a result, such a fault among them;
* `Failure.ofFault`: a fault as it is raised; one with an integer that is too long to be written gives way to that;
* `Fault.message` and `Failure.message?`: the wording. Failures without wording of their own have no message.
-/

namespace LinkedData

/-- A fault of a metadata tree or of the page data it refers to. -/
inductive Fault where
  /-- A lookup names a filter that is not registered; the registered ones are listed in order. -/
  | unknownFilter (name : String) (available : List String)
  /-- A filter got a value of another kind than it takes. -/
  | filterType (name expected : String) (value : Value)
  /-- A path leads to no value. -/
  | notFound (path : List String)
  /-- A segment of a path is applied to a value without parts. -/
  | notAnObject (path : List String) (segment : String)
  /-- The last lookup of the chain is under way already, or the chain is longer than the limit. -/
  | cyclic (chain : List DataRef) (limit : Nat)
  /-- A value without a form in linked data. -/
  | unsupported (value : Value)
deriving DecidableEq

/-- What ends an operation without a result. -/
inductive Failure where
  /-- A fault of structured data. -/
  | fault (fault : Fault)
  /-- A fault of structured data on the page of the given URL. -/
  | page (url : String) (fault : Fault)
  /-- A moment outside of the years 1 to 9999. -/
  | outsideCalendar
  /-- An index with more digits than are read. -/
  | overlongIndex
  /-- A limit for chains of lookups that is not positive. -/
  | depthNotPositive (depth : Int)
  /-- A site location without a scheme or a host. -/
  | locationNotAbsolute (location : String)
  /-- A site location whose host is malformed. -/
  | malformedHost
  /-- A value or key that cannot be encoded. -/
  | notEncodable
  /-- An infinite number or a NaN, which cannot be encoded. -/
  | numberNotFinite
  /-- A text with characters that no document may hold. -/
  | notDocumentText
  /-- The root of a document is itself a script that would have to be replaced. -/
  | rootIsScript
  /-- A text that holds no document. -/
  | noDocument
  /-- A page whose document is to be changed has none. -/
  | pageWithoutDocument
  /-- There is no page of the given number. -/
  | noSuchPage
  /-- An integer has more digits than are written. -/
  | overlongInteger
  /-- A text holds a half of a character and can not be written. -/
  | halfCharacter
  /-- A line on the console closes a tag that is not open. -/
  | unopenedTag
  /-- The name of a level is that of the format of log lines. -/
  | levelIsFormat
  /-- The name of a level is that of the table of format styles. -/
  | levelIsStyles
  /-- A filter is to be registered under the one name that none can have. -/
  | filterNameTaken
  /-- The octets of a file encode no text. -/
  | undecodable
  /-- A text has the form of a number or a time and denotes none. -/
  | denotesNothing
  /-- A number or a code of a text is beyond what is computed with. -/
  | outOfRange
  /-- A failure of something that is not defined here, such as a filter of the site, by the name of its kind. -/
  | foreign (kind : String)
deriving DecidableEq

/-- A failure on the page of the given URL; only faults of structured data name the page. -/
def Failure.onPage (url : String) : Failure → Failure
  | .fault f => .page url f
  | e => e

/-! ### faults that can be worded -/

/-- The wording of a fault holds no integer that is too long. -/
def Fault.isWritable : Fault → Bool
  | .filterType _ _ value => value.isWritable
  | .unsupported value => value.isWritable
  | .cyclic _ limit => LinkedData.isWritable limit
  | .unknownFilter _ _ | .notFound _ | .notAnObject _ _ => true

/-- The failure that a fault is, if it can be worded. -/
def Failure.ofFault (f : Fault) : Failure := if f.isWritable then .fault f else .overlongInteger

/-! ### wording -/

/-- The names of the registered filters, or a word for their absence. -/
def filterList (names : List String) : String :=
  if names.isEmpty then "none" else ", ".intercalate names

/-- The wording of a fault. -/
def Fault.message : Fault → String
  | .unknownFilter name available =>
    "Unknown filter: '" ++ name ++ "' (available: " ++ filterList available ++ ")"
  | .filterType name expected value =>
    "Filter '" ++ name ++ "' expected " ++ expected ++ ", but got " ++ value.typeName ++ ": " ++
      String.ofList value.literal
  | .notFound path => "Value not found: " ++ dotted path
  | .notAnObject path segment =>
    "Cannot extract value from object: " ++ dotted path ++ " ('" ++ segment ++ "' is applied to a non-container)"
  | .cyclic chain limit =>
    "Cyclic or too deeply nested data reference (limit " ++ toString limit ++ "): " ++
      " -> ".intercalate (chain.map DataRef.describe)
  | .unsupported value =>
    "Unsupported structured data value of type " ++ value.typeName ++ ": " ++ String.ofList value.literal

/-- The wording of a failure, if it has one of its own. -/
def Failure.message? : Failure → Option String
  | .fault f => some f.message
  | .page url f => some ("Invalid structured data in page '" ++ url ++ "': " ++ f.message)
  | .depthNotPositive depth =>
    some ("max_depth must be positive, got " ++ String.ofList (Numeric.intText depth))
  | .locationNotAbsolute location =>
    some ("Site location must be an absolute URL, got " ++ String.ofList (Text.quoted location.toList))
  | _ => none

end LinkedData
