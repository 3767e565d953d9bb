import LinkedData.CommandLine.Invocation

/-!
# The reader of arguments that the program runs with

* `Switch`: what may be switched on or given on the command line;
* `readArguments?`: the arguments of a command, options apart from the others. Options may stand anywhere before `--`;
* `commandRequest`: what the arguments of a command ask for. That is nothing that can be done if an argument is missing
  or too many, if a path leads to a file in the place of a directory or the other way round, or if a path holds a null
  character; but help goes before all of that;
* `argumentRequest`: what a command line asks for.

Of an option that is given several times the last one counts.
-/

namespace LinkedData.CommandLine

open Files

/-! ### options -/

/-- What an option sets. -/
inductive Switch where
  | url
  | config
  | siteData
  | output
  | wrap
  | noWrap
  | debug
  | help
deriving DecidableEq

/-- The option has a value. -/
def Switch.hasValue : Switch → Bool
  | .url | .config | .siteData | .output => true
  | .wrap | .noWrap | .debug | .help => false

/-- The names of the commands. -/
inductive CommandName where
  | resolve
  | inject
deriving DecidableEq

/-- The name of a command as it is written. -/
def CommandName.name : CommandName → String
  | .resolve => "resolve"
  | .inject => "inject"

/-- The command of a written name. -/
def commandNamed? (name : String) : Option CommandName := [CommandName.resolve, .inject].find? (·.name = name)

/-- The long options of a command. -/
def CommandName.switches : CommandName → List (String × Switch)
  | .resolve => [("--url", .url), ("--config", .config), ("--site-data", .siteData), ("--wrap", .wrap),
      ("--no-wrap", .noWrap), ("--debug", .debug), ("--help", .help)]
  | .inject => [("--url", .url), ("--output", .output), ("--config", .config), ("--site-data", .siteData),
      ("--debug", .debug), ("--help", .help)]

/-- The options of a command that are a dash and a letter. -/
def CommandName.letters : CommandName → List (Char × Switch)
  | .resolve => []
  | .inject => [('o', .output)]

/-- An argument before `--`. -/
inductive Word where
  /-- Not an option. -/
  | plain
  /-- An option, with a value if the argument has one in it. -/
  | switch (s : Switch) (value : Option String)
  /-- Not an option, although it begins like one. -/
  | unknown

/-- What an argument of a command is. -/
def CommandName.word (c : CommandName) (argument : String) : Word :=
  let cs := argument.toList
  let name := cs.takeWhile (· != '=')
  let value := if name.length < cs.length then some (String.ofList (cs.drop (name.length + 1))) else none
  match cs with
  | '-' :: d :: rest =>
    match c.switches.lookup (String.ofList name) with
    | some s => if value.isSome && !s.hasValue then .unknown else .switch s value
    | none =>
      match c.letters.lookup d with
      | some s => .switch s (if rest.isEmpty then none else some (String.ofList rest))
      | none => .unknown
  | _ => .plain

/-- The arguments of a command that are no options, and the options with their values. -/
def readArguments? (c : CommandName) : List String → Option (List String × List (Switch × String))
  | [] => some ([], [])
  | argument :: rest =>
    if argument = "--" then some (rest, [])
    else
      match c.word argument, rest with
      | .plain, rest => (readArguments? c rest).map fun (plain, given) => (argument :: plain, given)
      | .unknown, _ => none
      | .switch s (some value), rest => (readArguments? c rest).map fun (plain, given) => (plain, (s, value) :: given)
      | .switch s none, rest =>
        if s.hasValue then
          match rest with
          | [] => none
          | value :: rest => (readArguments? c rest).map fun (plain, given) => (plain, (s, value) :: given)
        else (readArguments? c rest).map fun (plain, given) => (plain, (s, "") :: given)

/-- The last value given for an option. -/
def lastValue? (given : List (Switch × String)) (s : Switch) : Option String :=
  (given.reverse.find? fun g => g.1 = s).map Prod.snd

/-! ### invocations -/

/-- A file stands at a written path. -/
def isFileIn (d : Directory) (text : String) : Bool :=
  match d.find? text with
  | some (.file _) => true
  | _ => false

/-- A directory stands at a written path. -/
def isDirectoryIn (d : Directory) (text : String) : Bool :=
  match d.find? text with
  | some .directory => true
  | _ => false

/-- A written path that can be one. -/
def isPathText (text : String) : Bool := !text.toList.contains '\x00'

/-- Context is wanted unless the last option about it says otherwise. -/
def wantsContext (given : List (Switch × String)) : Bool :=
  (given.reverse.find? fun g => g.1 = .wrap ∨ g.1 = .noWrap).all fun g => g.1 = .wrap

/-- The task of a command with the given files after that of the page. -/
def taskOf? (c : CommandName) (files : List String) (given : List (Switch × String)) : Option Task :=
  match c, files with
  | .resolve, [] => some (.resolve (wantsContext given))
  | .inject, [document] => some (.inject (Path.ofText document) ((lastValue? given .output).map Path.ofText))
  | _, _ => none

/-- The paths that are given can be ones, files stand where files are needed, and nowhere stands a file in the place of
a directory or the other way round. -/
def pathsFit (d : Directory) (files : List String) (siteData config output : Option String) : Bool :=
  (files ++ siteData.toList ++ config.toList ++ output.toList).all isPathText &&
    files.all (isFileIn d) && !siteData.any (isDirectoryIn d) && !config.any (isFileIn d)

/-- The invocation of a command with the given files and options. -/
def invocationOf? (c : CommandName) (d : Directory) (files : List String) (given : List (Switch × String)) :
    Option Invocation := do
  let siteData := lastValue? given .siteData
  let config := lastValue? given .config
  if pathsFit d files siteData config (lastValue? given .output) then
    let page ← files.head?
    return {
      task := ← taskOf? c files.tail given
      page := Path.ofText page
      siteData := siteData.map Path.ofText
      config := config.map Path.ofText
      url := lastValue? given .url
      debug := (lastValue? given .debug).isSome }
  else none

/-- A short text about a program or command. -/
def helpText (name : String) : String := "Usage: " ++ name ++ "\n"

/-- What the arguments of a command ask for. -/
def commandRequest (c : CommandName) (d : Directory) (arguments : List String) : Request :=
  match readArguments? c arguments with
  | none => .misuse
  | some (files, given) =>
    if (lastValue? given .help).isSome then .help (helpText c.name)
    else
      match invocationOf? c d files given with
      | some i => .run i
      | none => .misuse

/-- Whether help is asked for before the command, and the words from the command on; nothing if there is another option
before it. -/
def beforeCommand? : List String → Option (Bool × List String)
  | [] => some (false, [])
  | word :: rest =>
    if word = "--help" then (beforeCommand? rest).map fun (_, words) => (true, words)
    else if word = "--" then some (false, rest)
    else
      match word.toList with
      | '-' :: _ :: _ => none
      | _ => some (false, word :: rest)

/-- What a command line asks for in a directory. -/
def argumentRequest (d : Directory) (arguments : List String) : Request :=
  match beforeCommand? arguments with
  | none | some (false, []) => .misuse
  | some (true, _) => .help (helpText "sitemeta")
  | some (false, word :: rest) =>
    match commandNamed? word with
    | some c => commandRequest c d rest
    | none => .misuse

end LinkedData.CommandLine
