import LinkedData.Document.Element
import LinkedData.Filter
import LinkedData.Wrapping

/-!
# Linked data in templates

* `scriptMarkup`: a tree as a complete script element, which needs no further escaping;
* `registerScripts`: the filters of a template engine with the one that makes such elements. The engine itself is left
  to a library.
-/

namespace LinkedData

/-- A tree as a script element. -/
def scriptMarkup (context : String) (tree : Value) : Except Failure String :=
  (render context tree).map fun content =>
    "<script type=\"" ++ Element.dataScriptType ++ "\">" ++ content ++ "</script>"

/-- A filter of templates; what it makes of a value is markup. -/
abbrev MarkupFilter := Value → Except Failure String

/-- The name of the filter that makes script elements. -/
def scriptFilterName : String := "structured_data"

/-- Filters of templates with the one that makes script elements. -/
def registerScripts (filters : List (String × MarkupFilter)) (context : String) : List (String × MarkupFilter) :=
  Registry.register filters scriptFilterName (scriptMarkup context)

end LinkedData
