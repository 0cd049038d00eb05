import Thesaurus.Event
import Thesaurus.Files.Tree
import Thesaurus.Settings.Interpolation

/-!
# Settings

Each setting comes from the environment, else from the configuration file, else from a default.
A variable that is blank counts as not set. What is no truth value is reported and gives the
default of its switch. The environment is the one that the process ends up with: variables that a
file of them adds to it are added before the settings are read. The configuration file stands in
the directory of the program, so that where it is depends on whoever runs it.
-/

set_option autoImplicit false

namespace Thesaurus

/-- Variables of the environment by name. -/
abbrev Environment := OrderedMap Text Text

structure Settings where
  expand : Bool := false
  dedup : Bool := true
  lowercase : Bool := true
  ruleFile : Option Path := none
deriving DecidableEq, Repr

/-- The settings that are on or off. -/
inductive Switch where
  | expand
  | dedup
  | lowercase
deriving DecidableEq, Repr

namespace Switch

def option : Switch → Text
  | .expand => "expand"
  | .dedup => "dedup"
  | .lowercase => "lowercase"

def variableName : Switch → Text
  | .expand => "SYNONYM_EXPAND"
  | .dedup => "SYNONYM_DEDUP"
  | .lowercase => "SYNONYM_LOWERCASE"

def default : Switch → Bool
  | .expand => false
  | .dedup | .lowercase => true

end Switch

inductive SettingsError where
  | file (cause : FileError)
  | malformed
  | document (cause : Ini.ReadError)
  | interpolation (cause : Ini.InterpolationError)
deriving DecidableEq, Repr

namespace Settings

/-- The section that holds the settings. -/
def place : Text := "SYNONYMS"

def pathOption : Text := "rules_path"

def pathVariable : Text := "SYNONYM_RULES_PATH"

/-- The name of the configuration file in its directory. -/
def fileName : Text := "config.ini"

/-- The configuration file of a program whose directory is the working directory. -/
def defaultFile : Path := .ofText fileName

def truthWords : List (Text × Bool) :=
  [("1", true), ("yes", true), ("true", true), ("on", true),
   ("0", false), ("no", false), ("false", false), ("off", false)]

def truth? (value : Text) : Option Bool := truthWords.lookup (Unicode.lowercase value.trim)

/-- A value that is there and not blank. -/
def given? (value : Option Text) : Option Text := value.filter fun t => !t.trim.isEmpty

/-- The truth value of a text that was given under a name. -/
def truthOf (name value : Text) (default : Bool) : Reporting SettingsError Bool :=
  match truth? value with
  | some b => return b
  | none => do
    Reporting.report (.notBoolean name value)
    return default

/-- The document of a configuration file; without a file that can be opened it is empty. -/
def document (tree : FileTree) (path : Path) : Except SettingsError Ini.Document :=
  match tree.read path with
  | .error .nameTooLong => .error (.file .nameTooLong)
  | .error _ => .ok {}
  | .ok bytes =>
    match Utf8.decode? (Utf8.dropMark bytes) with
    | none => .error .malformed
    | some t => (Ini.read t).mapError .document

def optionValue (d : Ini.Document) (option : Text) : Reporting SettingsError (Option Text) :=
  match d.value? place option with
  | .ok value => return value
  | .error cause => throw (.interpolation cause)

/-- A switch that the environment sets is not looked up in the document. -/
def switch (d : Ini.Document) (env : Environment) (s : Switch) : Reporting SettingsError Bool := do
  match given? (env.get? s.variableName) with
  | some value => truthOf s.variableName value s.default
  | none =>
    match given? (← optionValue d s.option) with
    | some value => truthOf (place ++ "." ++ s.option) value s.default
    | none => return s.default

/-- The rule file: as the environment names it, or from the directory of the configuration file. -/
def ruleFileFrom (path : Path) (fromEnv fromFile : Option Text) : Option Path :=
  match given? fromEnv, given? fromFile with
  | some value, _ => some (.ofText value.trim)
  | none, some value => some (path.parent.under (.ofText value.trim))
  | none, none => none

/-- The settings of a configuration file and an environment. The option that names the rule file
is looked up in any case, and before the switches. -/
def load (tree : FileTree) (env : Environment) (path : Path := defaultFile) :
    Reporting SettingsError Settings := do
  let d ← (document tree path : Except SettingsError Ini.Document)
  let rules ← optionValue d pathOption
  let expand ← switch d env .expand
  let dedup ← switch d env .dedup
  let lowercase ← switch d env .lowercase
  return { expand, dedup, lowercase, ruleFile := ruleFileFrom path (env.get? pathVariable) rules }

end Settings

end Thesaurus
