import LinkedData.CommandLine.Standard

/-!
# The program

`main` reads the files that the arguments may name, runs the command line and carries its outcome out.
-/

namespace LinkedData.CommandLine

open Files

/-- The path of the directory that a path leads to something in. -/
def parentPath (text : String) : String :=
  let p := Path.ofText text
  Path.text { p with segments := p.segments.dropLast }

/-- The paths that arguments may name: themselves, what follows an equality sign or an option letter in them, the
directory of each, and the settings file of each. -/
def namedPaths (arguments : List String) : List String :=
  let values := arguments.map fun a => String.ofList ((a.toList.dropWhile (· != '=')).drop 1)
  let letters := arguments.map fun a => String.ofList (a.toList.drop 2)
  let paths := "." :: (arguments ++ values ++ letters).filter (!·.isEmpty)
  paths ++ paths.map parentPath ++ paths.map fun p => ((Path.ofText p).child Invocation.settingsFile).text

/-- What octets hold. -/
def contentOf (octets : ByteArray) : Content :=
  match String.fromUTF8? octets with
  | some text => .text text
  | none => .binary

/-- What stands at the given paths. -/
def readEntries (paths : List String) : IO Directory := do
  let base ← IO.currentDir
  let mut entries := []
  for p in paths do
    if ← (base / p).isDir then
      entries := (p, Entry.directory) :: entries
    else if ← (base / p).pathExists then
      entries := (p, Entry.file (contentOf (← IO.FS.readBinFile (base / p)))) :: entries
  return Directory.ofList entries.reverse

/-- The variables of the environment that may give values to settings. -/
def readEnvironment : IO Environment := do
  let mut env := []
  for setting in settingNames do
    let name := "SITEMETA_" ++ String.ofList (setting.toList.map Char.toUpper)
    if let some value ← IO.getEnv name then
      env := (name, value) :: env
  return env

/-- Carries an effect out. -/
def Effect.carryOut : Effect → IO Unit
  | tell line => IO.eprintln line
  | print text => IO.print text
  | write place text => IO.FS.writeFile ("/".intercalate place) text

/-- Carries an outcome out. -/
def Outcome.carryOut (o : Outcome) : IO Unit := do
  for e in o.effects do
    e.carryOut
  match o.ending with
  | .finished | .reported _ => return
  | .stopped problem => IO.eprintln (problem.message?.getD "The run was stopped.")
  | .misused => IO.eprintln "The arguments do not ask for anything that can be done."

end LinkedData.CommandLine

open LinkedData.CommandLine in
/-- Runs the command line. -/
def main (arguments : List String) : IO UInt32 := do
  let outcome := run .standard (← readEntries (namedPaths arguments)) (← readEnvironment) arguments
  outcome.carryOut
  return outcome.exitCode.toUInt32
