import LinkedData.Text.Blank

/-!
# Reference strings

A text in a metadata tree is one of four things, tried in this order:

* `site-url:self`, the URL of the page itself;
* `site-url:` and a path, the URL of that path of the site;
* `lume-data:` and a dotted path, then filters after bars, a lookup in the page data (`DataRef`);
* any other text, which stands for itself.

`Reference.ofText` classifies a text; `DataRef.describe` writes a lookup as it stands after its scheme.
-/

namespace LinkedData

open Text

/-- A lookup in the page data, and the filters that its value passes through. -/
structure DataRef where
  path : List String
  filters : List String
deriving DecidableEq, Inhabited

/-- What a text in a tree stands for. -/
inductive Reference where
  /-- The text itself. -/
  | plain (text : String)
  /-- The URL of the page. -/
  | pageUrl
  /-- The URL of a path of the site. -/
  | siteUrl (path : String)
  /-- A value of the page data. -/
  | data (ref : DataRef)
deriving DecidableEq, Inhabited

/-- The scheme of site URLs. -/
def siteScheme : List Char := "site-url:".toList

/-- The scheme of lookups in the page data. -/
def dataScheme : List Char := "lume-data:".toList

/-- The text that stands for the URL of the page. -/
def pageUrlText : String := "site-url:self"

/-! ### lookups -/

/-- The segments of a path, joined by dots. -/
def dotted (path : List String) : String := ".".intercalate path

/-- The lookup that a text with the scheme of lookups writes: blanks around the bars and at the end are dropped. -/
def DataRef.ofChars (cs : List Char) : DataRef :=
  let parts := (cs.splitOn '|').map trim
  let path := ((parts.headD []).drop dataScheme.length).splitOn '.'
  ⟨path.map String.ofList, parts.tail.map String.ofList⟩

/-- The dotted path of a lookup and its filters, with bars between them. -/
def DataRef.describe (ref : DataRef) : String := " | ".intercalate (dotted ref.path :: ref.filters)

/-! ### classification -/

/-- What a text stands for. -/
def Reference.ofText (text : String) : Reference :=
  let cs := text.toList
  if text = pageUrlText then .pageUrl
  else if siteScheme.isPrefixOf cs then .siteUrl (String.ofList (cs.drop siteScheme.length))
  else if dataScheme.isPrefixOf cs then .data (DataRef.ofChars cs)
  else .plain text

/-- Anything but plain text. -/
def Reference.isReference : Reference → Bool
  | .plain _ => false
  | _ => true

/-- The lookup that a reference is, if it is one. -/
def Reference.ref? : Reference → Option DataRef
  | .data ref => some ref
  | _ => none

end LinkedData
