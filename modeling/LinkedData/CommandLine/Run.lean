import LinkedData.CommandLine.Invocation
import LinkedData.LogLevel
import LinkedData.Page
import LinkedData.Reading
import LinkedData.Settings

/-!
# Runs of the command line

* `Toolkit`: what the command line is built on: libraries for arguments, settings, data, documents and the console;
* `Problem`: what ends a run without a result. Those with a `label?` are reported in a line;
* `Effect`: what a run does that can be seen from outside: lines about it, printed text and written files;
* `Action`: a part of a run, with the effects that it has until it comes to its result or to a problem;
* `Invocation.perform`: an invocation: settings, data, resolution, and then its task;
* `run`: the outcome of a command line in a directory and an environment, with its effects in order.
-/

namespace LinkedData.CommandLine

open Files Text

/-! ### libraries -/

/-- What the command line is built on. -/
structure Toolkit where
  /-- What arguments ask for in a directory. -/
  request : Directory → List String → Request
  validation : Validation
  markup : MarkupLibrary
  /-- The value that a text of data writes. -/
  data : String → Read Value
  /-- How a message is shown on the console, after a label in a style. -/
  report : (style label message : String) → Except Failure String
  /-- How a line with tags is shown on the console, in a style. -/
  notice : (style line : String) → Except Failure String
  /-- What is printed for a text and a line end. -/
  echo : String → Except Failure String

/-! ### problems -/

/-- Why a data file is not read. -/
inductive DataFault where
  | obstacle (o : Obstacle)
  /-- The text does not follow the rules of the format. -/
  | malformed
  /-- The value of the file is no mapping. -/
  | notMapping (value : Value)

/-- What ends a run without a result. -/
inductive Problem where
  /-- The settings are refused. -/
  | settings (error : SettingsError)
  /-- A data file is refused. -/
  | dataFile (path : Path) (fault : DataFault)
  /-- An operation on a text, the page or the log fails. -/
  | failure (failure : Failure)
  /-- No file can be written to the path of the output, or be looked for at that of the settings. -/
  | place (obstacle : Obstacle)

namespace Problem

/-- The wording of a problem with a data file. -/
def dataFileMessage (path : Path) (fault : DataFault) : String :=
  let reason := match fault with
    | .obstacle o => ": " ++ o.message path
    | .malformed => ""
    | .notMapping v => ": expected a mapping, got " ++ v.typeName
  "Failed to read data file '" ++ path.text ++ "'" ++ reason

/-- The wording of a problem, if it has one of its own. -/
def message? : Problem → Option String
  | .settings (.failure f) => f.message?
  | .settings _ => some "Failed to load configuration"
  | .dataFile path fault => some (dataFileMessage path fault)
  | .failure f => f.message?
  | .place _ => none

/-- What the line that reports a problem begins with; other problems are not reported. -/
def label? : Problem → Option String
  | .settings (.failure _) => none
  | .settings _ => some "Configuration error"
  | .dataFile _ _ => some "Data file error"
  | .failure (.page _ _) => some "Structured data error"
  | .failure (.fault _) => some "Error"
  | .failure _ | .place _ => none

end Problem

/-- The style of labels. -/
def labelStyle : String := "bold red"

/-- The line that reports a problem, if it is reported. -/
def Toolkit.line? (tk : Toolkit) (p : Problem) : Option (Except Failure String) :=
  p.label?.map fun label => tk.report labelStyle label (p.message?.getD "")

/-! ### actions -/

/-- What a run does that can be seen from outside; lines of the log are left out. -/
inductive Effect where
  /-- A line about the run. -/
  | tell (line : String)
  /-- A text on the output. -/
  | print (text : String)
  /-- A file with a text at a place. -/
  | write (place : List String) (text : String)
deriving DecidableEq

/-- A part of a run: what it does, and what it comes to. -/
structure Action (α : Type) where
  effects : List Effect
  result : Except Problem α

namespace Action

/-- The action that does nothing but compute. -/
def of {α : Type} (x : Except Problem α) : Action α := ⟨[], x⟩

/-- The action with a single effect. -/
def perform (e : Effect) : Action Unit := ⟨[e], .ok ()⟩

/-- An action and another one that goes on from its result; what is done before a problem stays done. -/
def andThen {α β : Type} (x : Action α) (f : α → Action β) : Action β :=
  match x.result with
  | .ok a => ⟨x.effects ++ (f a).effects, (f a).result⟩
  | .error p => ⟨x.effects, .error p⟩

instance : Monad Action where
  pure a := of (.ok a)
  bind := andThen

end Action

/-! ### data -/

/-- The text of a file with line feeds for all its line ends. -/
def readText (d : Directory) (p : Path) : Except Problem String :=
  match d.read p with
  | .ok (.text text) => .ok (String.ofList (unixLines text.toList))
  | .ok .binary => .error (.failure .undecodable)
  | .error o => .error (.dataFile p (.obstacle o))

/-- The entries of a data file; a file without content has none. -/
def readMapping (tk : Toolkit) (d : Directory) (p : Path) : Except Problem Entries := do
  match tk.data (← readText d p) with
  | .ok (.map entries) => return entries
  | .ok .null => return []
  | .ok v => throw (.dataFile p (.notMapping v))
  | .error .malformed => throw (.dataFile p .malformed)
  | .error (.failure e) => throw (.failure e)

/-- The URL of a page: the given one if it is not empty, else that of its data, else the root of the site. -/
def pageUrl (given : Option String) (data : Entries) : Except Problem String :=
  match given.filter (!·.isEmpty), (Entries.lookup? data "url").filter (!·.isVoid) with
  | some url, _ => .ok url
  | none, some v => if v.isWritable then .ok (String.ofList v.display) else .error (.failure .overlongInteger)
  | none, none => .ok "/"

namespace Invocation

/-- The entries of the site; there are none without a file of them. -/
def siteEntries (i : Invocation) (tk : Toolkit) (d : Directory) : Except Problem Entries :=
  match i.siteData with
  | none => .ok []
  | some p => readMapping tk d p

/-- The page with the data of the site and, on top of it, its own. -/
def readPage (i : Invocation) (tk : Toolkit) (d : Directory) : Except Problem Page := do
  let site ← i.siteEntries tk d
  let own ← readMapping tk d i.page
  let data := Entries.update site own
  let url ← pageUrl i.url data
  return ⟨url, data, none⟩

/-! ### settings -/

/-- The name of the settings file. -/
def settingsFile : String := ".sitemeta.toml"

/-- The settings of the directory that the invocation names or, if it names none, of the working directory. -/
def settings (i : Invocation) (tk : Toolkit) (d : Directory) (env : Environment) : Except Problem Settings :=
  let file := (i.config.getD (Path.ofText "")).child settingsFile
  match d.read file with
  | .error .tooLong => .error (.place .tooLong)
  | content => (Settings.load tk.validation content.toOption env).mapError .settings

/-- Sets the level of the log, that of the settings or, for debugging, the lowest one with a name. -/
def configureLog (i : Invocation) (s : Settings) (env : Environment) : Except Problem Unit :=
  let name := if i.debug then "DEBUG" else s.logLevel
  (Log.initial.configure (some name) (env.lookup "SITEMETA_LOG_LEVEL")).1.mapError .failure

end Invocation

/-! ### tasks -/

/-- Prints a text and a line end. -/
def printLine (tk : Toolkit) (text : String) : Action Unit := do
  let shown ← .of ((tk.echo text).mapError Problem.failure)
  .perform (.print shown)

/-- Writes a text to the file at a path. -/
def writeFile (d : Directory) (path : Path) (text : String) : Action Unit := do
  let place ← .of ((d.placeFor path).mapError Problem.place)
  .perform (.write place text)

/-- Prints a text or, if there is a path for it, writes it to the file there. -/
def deliver (tk : Toolkit) (d : Directory) (output : Option Path) (text : String) : Action Unit :=
  match output with
  | none => printLine tk text
  | some path => writeFile d path text

/-- The text of a tree, with a context or without one. -/
def treeText (s : Settings) (wrapped : Bool) (tree : Value) : Except Failure String :=
  if wrapped then render s.context tree else Json.serialize tree

/-- Prints the tree of a page. -/
def printTree (tk : Toolkit) (s : Settings) (wrapped : Bool) (tree : Value) : Action Unit := do
  let text ← .of ((treeText s wrapped tree).mapError Problem.failure)
  printLine tk text

/-- Puts the tree of a page into the document of a file, and delivers that document. -/
def embedTree (tk : Toolkit) (d : Directory) (s : Settings) (page : Page) (document : Path) (output : Option Path) :
    Action Unit := do
  let text ← .of (readText d document)
  let (text, _) ← .of ((page.injectText tk.markup s.context text).mapError Problem.failure)
  deliver tk d output text

/-- The style of notices. -/
def noticeStyle : String := "yellow"

/-- Tells a line as a notice. Tags in it are not shown as they are. -/
def tellNotice (tk : Toolkit) (line : String) : Action Unit := do
  let shown ← .of ((tk.notice noticeStyle line).mapError Problem.failure)
  .perform (.tell shown)

namespace Invocation

/-- Tells that a page declares no metadata. -/
def tellUndeclared (i : Invocation) (tk : Toolkit) : Action Unit :=
  tellNotice tk ("No structured data declared in " ++ i.page.text)

/-- The task of an invocation, for a page after resolution. -/
def carryOut (i : Invocation) (tk : Toolkit) (d : Directory) (s : Settings) (page : Page) : Action Unit :=
  match i.task with
  | .resolve wrapped =>
    match page.declared? with
    | none => i.tellUndeclared tk
    | some tree => printTree tk s wrapped tree
  | .inject document output =>
    if page.declares then embedTree tk d s page document output
    else do
      i.tellUndeclared tk
      embedTree tk d s page document output

/-- The settings, and the page after resolution. -/
def prepare (i : Invocation) (tk : Toolkit) (d : Directory) (env : Environment) : Except Problem (Settings × Page) := do
  let s ← i.settings tk d env
  i.configureLog s env
  let page ← i.readPage tk d
  match page.resolve s.resolver s.site.url with
  | (.error e, _) => throw (.failure e)
  | (.ok _, resolved) => return (s, resolved)

/-- What an invocation does. -/
def perform (i : Invocation) (tk : Toolkit) (d : Directory) (env : Environment) : Action Unit := do
  let (s, page) ← .of (i.prepare tk d env)
  i.carryOut tk d s page

end Invocation

/-! ### runs -/

/-- How a run ends. -/
inductive Ending where
  /-- With its task done. -/
  | finished
  /-- With a line about a problem. -/
  | reported (line : String)
  /-- With a problem that is not reported. -/
  | stopped (problem : Problem)
  /-- The command line asks for nothing that can be done. -/
  | misused

/-- What a run does, in order, and how it ends. -/
structure Outcome where
  effects : List Effect
  ending : Ending

/-- The line that an effect tells. -/
def Effect.told? : Effect → Option String
  | tell line => some line
  | _ => none

/-- The text that an effect prints. -/
def Effect.printed? : Effect → Option String
  | print text => some text
  | _ => none

/-- The place and the text of the file that an effect writes. -/
def Effect.written? : Effect → Option (List String × String)
  | write place text => some (place, text)
  | _ => none

namespace Outcome

/-- The exit code. -/
def exitCode (o : Outcome) : Nat :=
  match o.ending with
  | .finished => 0
  | .reported _ | .stopped _ => 1
  | .misused => 2

/-- The lines about the run. -/
def told (o : Outcome) : List String := o.effects.filterMap Effect.told?

/-- The text that is printed. -/
def printed (o : Outcome) : String := String.join (o.effects.filterMap Effect.printed?)

/-- The files that are written, and their places. -/
def written (o : Outcome) : List (List String × String) := o.effects.filterMap Effect.written?

/-- The directory after a run that began with `d`. -/
def directory (o : Outcome) (d : Directory) : Directory :=
  o.written.foldl (fun d f => d.insert f.1 (.file (.text f.2))) d

end Outcome

/-- The outcome of an action. A problem is reported if it has a label, but debugging shows all problems as they are. -/
def Action.outcome (tk : Toolkit) (debug : Bool) (a : Action Unit) : Outcome :=
  match a.result with
  | .ok () => ⟨a.effects, .finished⟩
  | .error p =>
    match if debug then none else tk.line? p with
    | some (.ok line) => ⟨a.effects ++ [.tell line], .reported line⟩
    | some (.error e) => ⟨a.effects, .stopped (.failure e)⟩
    | none => ⟨a.effects, .stopped p⟩

/-- The outcome of a command line. -/
def run (tk : Toolkit) (d : Directory) (env : Environment) (arguments : List String) : Outcome :=
  match tk.request d arguments with
  | .run i => (i.perform tk d env).outcome tk i.debug
  | .help text => ⟨[.print text], .finished⟩
  | .misuse => ⟨[], .misused⟩

end LinkedData.CommandLine
