import LinkedData.Files.Directory
import LinkedData.Resolver
import LinkedData.Toml.Document
import LinkedData.Value.Merge
import LinkedData.Wrapping

/-!
# Settings of a site

A setting comes from the environment or from the settings file, or it has its default.

* `Settings`: a site, a context, a limit for chains of lookups and the name of a log level;
* `Validation`: which value entries and an environment give to a setting, and what values are taken for. This is left to
  a library; `Validation.Documented` is what it is relied on for;
* `Validation.check`, `Validation.converted` and `Validation.settings`: the names of the settings with a value that is
  not valid, if there are some; the values of those with one, as they are converted; and all settings;
* `Settings.load`: the settings under a file and an environment. The file is read first, then the values of the
  environment are checked, then those that result when they are merged into the file. `SettingsError` tells what is
  wrong.
-/

namespace LinkedData

open Files

/-- The settings of a site. -/
structure Settings where
  site : Site
  context : String
  maxDepth : Nat
  logLevel : String
  maxDepth_pos : 0 < maxDepth

/-- Why settings are refused. -/
inductive SettingsError where
  /-- The file is not valid. -/
  | unreadable
  /-- The values of these settings are not valid. -/
  | invalid (names : List String)
  /-- The file is no text, or something in it can not be made; this is not reported as a fault of the settings. -/
  | failure (e : Failure)
deriving DecidableEq

/-- The site that is used where no location is given. -/
def standardSite : Site := ⟨"http://localhost/", "http://localhost", "/"⟩

/-! ### names -/

/-- The names of the settings. -/
def settingNames : List String := ["location", "context", "max_reference_depth", "log_level"]

/-- A name in lower case. -/
def lowerName (name : String) : String := String.ofList (name.toList.map Char.toLower)

/-- The key spells the name of a setting. -/
def Key.spells (name : String) : Key → Bool
  | .str s => lowerName s = name
  | _ => false

/-- The variables of a process. -/
abbrev Environment := List (String × String)

/-- The name of the variable for a setting, in lower case. -/
def variableName (name : String) : String := "sitemeta_" ++ name

/-- The variable is for a setting. -/
def isVariableFor (name : String) (a : String × String) : Bool := lowerName a.1 = variableName name

/-! ### the library -/

/-- A limit of at least one. -/
abbrev Depth := { n : Nat // 0 < n }

/-- A library for settings. -/
structure Validation where
  /-- The value that entries and an environment give to a setting. -/
  given? : Entries → Environment → String → Option Value
  /-- The text that a value is taken for. -/
  text? : Value → Option String
  /-- The integer that a value is taken for. -/
  integer? : Value → Option Int

/-- What a library for settings is relied on for: names count in any case, entries go before the environment, and texts
and integers are taken for themselves. Which one counts of several entries or variables for a setting is left open. -/
structure Validation.Documented (rules : Validation) : Prop where
  given_entry : ∀ entries env, ∀ name ∈ settingNames, (∃ e ∈ entries, e.1.spells name = true) →
    ∃ e ∈ entries, e.1.spells name = true ∧ rules.given? entries env name = some e.2
  given_variable : ∀ entries env, ∀ name ∈ settingNames, (∀ e ∈ entries, e.1.spells name = false) →
    (∃ a ∈ env, isVariableFor name a = true) →
      ∃ a ∈ env, isVariableFor name a = true ∧ rules.given? entries env name = some (.str a.2)
  given_none : ∀ entries env, ∀ name ∈ settingNames, (∀ e ∈ entries, e.1.spells name = false) →
    (∀ a ∈ env, isVariableFor name a = false) → rules.given? entries env name = none
  text_str : ∀ s, rules.text? (.str s) = some s
  integer_int : ∀ n, rules.integer? (.int n) = some n

namespace Validation

/-! ### values of settings -/

variable (rules : Validation)

/-- The site at the location that a value gives. -/
def site? (v : Value) : Option Site := (rules.text? v).bind fun s => (Site.ofLocation s).toOption

/-- The limit that a value gives. -/
def depth? (v : Value) : Option Depth :=
  (rules.integer? v).bind fun n => if h : 0 < n.toNat then some ⟨n.toNat, h⟩ else none

/-- What the value of a setting is converted to, if it is valid. -/
def convert? (name : String) (v : Value) : Option Value :=
  if name = "location" then (rules.site? v).map fun site => .str site.location
  else if name = "max_reference_depth" then (rules.depth? v).map fun n => .int n.val
  else (rules.text? v).map .str

/-- The settings whose values are not valid. -/
def invalid (entries : Entries) (env : Environment) : List String :=
  settingNames.filter fun name => (rules.given? entries env name).any fun v => (rules.convert? name v).isNone

/-- The given values are valid. -/
def check (entries : Entries) (env : Environment) : Except SettingsError Unit :=
  match rules.invalid entries env with
  | [] => .ok ()
  | names => .error (.invalid names)

/-- The given values as they are converted, by the names of their settings. -/
def converted (entries : Entries) (env : Environment) : Entries :=
  settingNames.filterMap fun name =>
    ((rules.given? entries env name).bind (rules.convert? name)).map fun v => (.str name, v)

/-! ### settings -/

/-- A setting read by `read?`, or its default. -/
def settingOr {α : Type} (given : Option Value) (read? : Value → Option α) (default : α) : α :=
  (given.bind read?).getD default

/-- The settings under the given values. -/
def settings (entries : Entries) (env : Environment) : Settings :=
  let given := rules.given? entries env
  let depth := settingOr (given "max_reference_depth") rules.depth? ⟨standardDepth, standardDepth_pos⟩
  { site := settingOr (given "location") rules.site? standardSite
    context := settingOr (given "context") rules.text? standardContext
    maxDepth := depth.val
    logLevel := settingOr (given "log_level") rules.text? "INFO"
    maxDepth_pos := depth.property }

end Validation

namespace Settings

/-- The entries of the settings file; without a file there are none. -/
def fileEntries : Option Content → Except SettingsError Entries
  | none => .ok []
  | some .binary => .error (.failure .undecodable)
  | some (.text text) =>
    match Toml.read text with
    | .ok entries => .ok entries
    | .error .malformed => .error .unreadable
    | .error (.failure e) => .error (.failure e)

/-- The settings under a file, if there is one, and an environment. -/
def load (rules : Validation) (file : Option Content) (env : Environment) : Except SettingsError Settings := do
  let fromFile ← fileEntries file
  rules.check [] env
  let given := fromFile.merge (rules.converted [] env)
  rules.check given env
  return rules.settings given env

/-- The resolver with the standard filters and the limit of the settings. -/
def resolver (s : Settings) : Resolver := ⟨.standard, s.maxDepth, s.maxDepth_pos⟩

end Settings

end LinkedData
