import LinkedData.Failure

/-!
# The level of log messages

* `levelNumber`: the number of a level's name, in any case; a name that is no level's counts as `INFO`, but two names
  of other properties of a log are refused;
* `Log.configure`: makes sure that a log has its handler, then sets its level.
-/

namespace LinkedData

/-! ### names -/

/-- The letters whose upper case consists of ASCII letters, ASCII letters apart. -/
def foldedLetters : List (Char × List Char) :=
  [('\u00df', ['S', 'S']), ('\u0131', ['I']), ('\u017f', ['S']), ('\ufb00', ['F', 'F']), ('\ufb01', ['F', 'I']),
   ('\ufb02', ['F', 'L']), ('\ufb03', ['F', 'F', 'I']), ('\ufb04', ['F', 'F', 'L']), ('\ufb05', ['S', 'T']),
   ('\ufb06', ['S', 'T'])]

/-- A character in upper case; those whose upper case is not ASCII stay as they are. -/
def upperChar (c : Char) : List Char := (foldedLetters.lookup c).getD [c.toUpper]

/-- A name in upper case. -/
def upperName (name : String) : String := String.ofList (name.toList.flatMap upperChar)

/-- The levels by name. -/
def levels : List (String × Nat) :=
  [("CRITICAL", 50), ("FATAL", 50), ("ERROR", 40), ("WARNING", 30), ("WARN", 30), ("INFO", 20), ("DEBUG", 10),
   ("NOTSET", 0)]

/-- The number of the level that is used where no level is named. -/
def standardLevel : Nat := 20

/-- The number of the level of a name. -/
def levelNumber (name : String) : Except Failure Nat :=
  let upper := upperName name
  if upper = "BASIC_FORMAT" then .error .levelIsFormat
  else if upper = "_STYLES" then .error .levelIsStyles
  else .ok ((levels.lookup upper).getD standardLevel)

/-! ### logs -/

/-- The level and the number of handlers of a log. -/
structure Log where
  level : Nat
  handlers : Nat
deriving DecidableEq

/-- A log before it is configured. -/
def Log.initial : Log := ⟨30, 0⟩

/-- The name of the level: the argument if it is not empty, else the setting of the environment, else `INFO`. -/
def levelName (argument setting : Option String) : String :=
  match argument with
  | some name => if name.isEmpty then setting.getD "INFO" else name
  | none => setting.getD "INFO"

/-- Configures a log. The handler is there also if the level is refused. -/
def Log.configure (log : Log) (argument setting : Option String) : Except Failure Unit × Log :=
  let handled : Log := { log with handlers := if log.handlers = 0 then 1 else log.handlers }
  match levelNumber (levelName argument setting) with
  | .ok n => (.ok (), { handled with level := n })
  | .error e => (.error e, handled)

end LinkedData
