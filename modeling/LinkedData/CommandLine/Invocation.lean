import LinkedData.Files.Directory

/-!
# Invocations

* `Task` and `Invocation`: what is to be done with the metadata of a page, and with which files and options;
* `Request`: what a command line asks for.
-/

namespace LinkedData.CommandLine

open Files

/-- What is to be done with the metadata of a page. -/
inductive Task where
  /-- Print it, with a context or without one. -/
  | resolve (wrap : Bool)
  /-- Put it into the document of a file and print that document or write it to a file. -/
  | inject (document : Path) (output : Option Path)

/-- What a command line asks for. -/
structure Invocation where
  task : Task
  page : Path
  siteData : Option Path
  /-- The directory of the settings file. -/
  config : Option Path
  url : Option String
  /-- Failures are not to be reported but shown as they are. -/
  debug : Bool

/-- What a command line asks for. -/
inductive Request where
  | run (i : Invocation)
  /-- Help, which has the given text. -/
  | help (text : String)
  /-- Nothing that can be done. -/
  | misuse

end LinkedData.CommandLine
