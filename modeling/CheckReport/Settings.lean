import CheckReport.Server.Check

/-!
# Settings

What a run goes by: the workspace, the least severity, the configuration file of the server, the use
of colour, the executable and the time limit. Settings are read from named values; names that are no
setting are passed over. A reading gives every fault, in the order of the settings, unless a path
stops it: one with a name that is too long for a file, or one that leads nowhere and cannot be
written into the message that says so.
-/

namespace CheckReport

open Json (Value)
open Server (Host)
open Terminal (ColorMode)

structure Settings where
  workspace : Path := Path.ofText Path.dot
  level : Severity := .warning
  configPath : Option Path := none
  color : ColorMode := .auto
  executable : Text := Server.defaultExecutable
  timeout : Option Binary64 := none
  deriving DecidableEq, Repr

namespace Settings

inductive Problem where
  | notPath
  | absent (path : Path)
  | notLevel
  | notColorMode
  | notText
  | unpairedSurrogate
  | empty
  | notNumber
  | unparsable
  | notPositive
  deriving DecidableEq, Repr

def absenceNote (path : Path) : Text :=
  text "'" ++ path.toText ++ text "': No such file or directory"

def Problem.message : Problem → Text
  | .notPath => text "Input is not a valid path for <class 'pathlib.Path'>"
  | .absent path => text "Value error, " ++ absenceNote path
  | .notLevel => text "Input should be 'Error', 'Warning', 'Information' or 'Hint'"
  | .notColorMode => text "Input should be 'auto', 'always' or 'never'"
  | .notText => text "Input should be a valid string"
  | .unpairedSurrogate =>
    text "Input should be a valid string, unable to parse raw data as a unicode string"
  | .empty => text "String should have at least 1 character"
  | .notNumber => text "Input should be a valid number"
  | .unparsable => text "Input should be a valid number, unable to parse string as a number"
  | .notPositive => text "Input should be greater than 0"

/-- A setting with a value that it cannot have. -/
structure Fault where
  name : Text
  problem : Problem
  deriving DecidableEq, Repr

def Fault.message (fault : Fault) : Text :=
  fault.name ++ text ": " ++ fault.problem.message

/-- What stops a reading at once. -/
inductive Interruption where
  | tooLong (fault : NameTooLong)
  | unwritable (fault : Text.Utf8.Unencodable)
  deriving DecidableEq, Repr

def Interruption.message : Interruption → Text
  | .tooLong fault => fault.message
  | .unwritable fault => fault.message

inductive Refusal where
  | faults (all : List Fault)
  | interrupted (cause : Interruption)
  deriving DecidableEq, Repr

def Refusal.message : Refusal → Text
  | .faults all => Text.join (text "; ") (all.map Fault.message)
  | .interrupted cause => cause.message

/-! ### Names -/

def workspaceName : Text := text "workspace"

def levelName : Text := text "checklevel"

def configPathName : Text := text "configpath"

def colorName : Text := text "color"

def executableName : Text := text "executable"

def timeoutName : Text := text "timeout"

/-! ### Single settings -/

/-- That nothing is at a path, if this can be written. -/
def absent (path : Path) : Except Interruption Problem :=
  match Text.Utf8.unencodable? (absenceNote path) with
  | some fault => .error (.unwritable fault)
  | none => .ok (.absent path)

def existingOf (site : Site) : Value → Except Interruption (Except Problem Path)
  | .str s => do
    let path := Path.ofText s
    if ← (site.exists? path.toText).mapError .tooLong then return .ok path
    else return .error (← absent path)
  | _ => .ok (.error .notPath)

/-- A text without surrogates that stand alone. -/
def pairedText (s : Text) : Except Problem Text :=
  if s.any Text.isSurrogate then .error .unpairedSurrogate else .ok s

/-- One of several choices, by the word for it. -/
def choiceOf {α : Type} (problem : Problem) (find? : Text → Option α) : Value → Except Problem α
  | .str s => do
    match find? (← pairedText s) with
    | some a => return a
    | none => .error problem
  | _ => .error problem

def levelOf : Value → Except Problem Severity :=
  choiceOf .notLevel Severity.ofLabel?

def colorModeOf : Value → Except Problem ColorMode :=
  choiceOf .notColorMode ColorMode.ofName?

def executableOf : Value → Except Problem Text
  | .str s => do
    let s ← pairedText s
    if s = [] then .error .empty else return s
  | _ => .error .notText

/-- The number that a value stands for: booleans count as 0 and 1, and texts as the numbers they
spell. -/
def numberOf : Value → Except Problem Binary64
  | .bool b => .ok (Binary64.ofInt (if b then 1 else 0))
  | .int n => match Binary64.ofInt n with
    | .infinite _ => .error .notNumber
    | x => .ok x
  | .float x => .ok x
  | .str s => do
    match Binary64.ofLooseText? (← pairedText s) with
    | some x => return x
    | none => .error .unparsable
  | _ => .error .notNumber

/-- A time limit, or null for none. -/
def timeoutOf : Value → Except Problem (Option Binary64)
  | .null => .ok none
  | v => do
    let x ← numberOf v
    if x.isPositive then return some x else .error .notPositive

/-! ### All settings -/

/-- The configuration file that is used if none is named. -/
def defaultConfigName : Text := text ".luarc.json"

/-- The configuration file in a directory, by its absolute path, if there is one. -/
def defaultConfigPath (site : Site) (directory : Path) : Except NameTooLong (Option Path) :=
  let candidate := directory.join (Path.ofText defaultConfigName)
  (site.isFile candidate.toText).map fun found =>
    if found then some ((Path.ofText site.cwd).join candidate) else none

/-- What is said about a setting, with its name on the fault. -/
def named {α : Type} (name : Text) (x : Except Problem α) : Validation Fault α :=
  x.mapError fun problem => [⟨name, problem⟩]

/-- The setting of a name: a default where it is not given. -/
def given {α : Type} (name : Text) (fallback : α) (read : Value → Except Problem α)
    (values : List (Text × Value)) : Validation Fault α :=
  match Value.member? name values with
  | none => .ok fallback
  | some v => named name (read v)

def workspaceOf (site : Site) (values : List (Text × Value)) :
    Except Interruption (Validation Fault Path) :=
  match Value.member? workspaceName values with
  | none => .ok (.ok (Path.ofText Path.dot))
  | some v => (existingOf site v).map (named workspaceName)

/-- The configuration file: the default one where none is given, also by null. -/
def configPathOf (site : Site) (fallback : Option Path) (values : List (Text × Value)) :
    Except Interruption (Validation Fault (Option Path)) :=
  match (Value.member? configPathName values).getD .null with
  | .null => .ok (.ok fallback)
  | v => (existingOf site v).map fun x => (named configPathName x).map some

/-- The default configuration file, which is looked for only where none is named. -/
def fallbackOf (site : Site) (values : List (Text × Value)) : Except NameTooLong (Option Path) :=
  match (Value.member? configPathName values).getD .null with
  | .null => defaultConfigPath site (Path.ofText site.cwd)
  | _ => .ok none

/-- The settings whose values are all good, or the faults of all, in the order of the settings. -/
def collect (workspace : Validation Fault Path) (configPath : Validation Fault (Option Path))
    (values : List (Text × Value)) : Validation Fault Settings :=
  (Validation.both workspace
    (Validation.both (given levelName .warning levelOf values)
      (Validation.both configPath
        (Validation.both (given colorName .auto colorModeOf values)
          (Validation.both (given executableName Server.defaultExecutable executableOf values)
            (given timeoutName none timeoutOf values)))))).map
    fun (workspace, level, configPath, color, executable, timeout) =>
      ⟨workspace, level, configPath, color, executable, timeout⟩

def ofValues (site : Site) (values : List (Text × Value)) : Except Refusal Settings := do
  let fallback ← (fallbackOf site values).mapError fun fault => .interrupted (.tooLong fault)
  let workspace ← (workspaceOf site values).mapError .interrupted
  let configPath ← (configPathOf site fallback values).mapError .interrupted
  (collect workspace configPath values).mapError .faults

def request (settings : Settings) : Server.Request where
  workspace := settings.workspace
  level := settings.level
  configPath := settings.configPath
  executable := settings.executable
  timeout := settings.timeout

end Settings

end CheckReport
