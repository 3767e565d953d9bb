import LinkedData.CommandLine.Arguments
import LinkedData.CommandLine.Console
import LinkedData.CommandLine.Run
import LinkedData.CommandLine.Style
import LinkedData.Document.Markup
import LinkedData.Settings.Standard
import LinkedData.Text.Half
import LinkedData.Text.Terminal
import LinkedData.Yaml.Document

/-!
# The libraries that the program runs with

* `shownNotice`: a line is shown as a notice unless its tags can not be shown;
* `printedLine`: a text is printed without terminal sequences and, of necessity, without halves of characters;
* `Toolkit.standard`: these with the readers of arguments, settings, data and documents.
-/

namespace LinkedData.CommandLine

open Text

/-- How a line with tags is shown in a style. -/
def shownNotice (style line : String) : Except Failure String :=
  match tagFault? style line with
  | none => .ok line
  | some .notNumber => .error .denotesNothing
  | some _ => .error .unopenedTag

/-- What is printed for a text and a line end. -/
def printedLine (text : String) : Except Failure String :=
  if holdsHalf text.toList then .error .halfCharacter else .ok (withoutSequences text ++ "\n")

/-- The libraries that the program runs with. -/
def Toolkit.standard : Toolkit where
  request := argumentRequest
  validation := .standard
  markup := .standard
  data := Yaml.read
  report := fun _ label message => .ok (shownLine label message)
  notice := shownNotice
  echo := printedLine

end LinkedData.CommandLine
