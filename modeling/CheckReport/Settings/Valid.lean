import CheckReport.Server.ArtifactFirst
import CheckReport.Settings

/-!
# Valid settings

What the values say that each setting is, and what a reading of all of them comes to: the settings that
agree with the values, or a message with an entry for each setting that cannot agree with them.
-/

namespace CheckReport

open Json (Value)
open Terminal (ColorMode)

namespace Site

/-- Something is at a path. -/
def Has (site : Site) (path : Path) : Prop :=
  ∃ node, site.at? path.toText = .ok (some node)

/-- A path has a name that is too long for a file, or nothing is there and this cannot be written. -/
def Stops (site : Site) (path : Path) : Prop :=
  (∃ fault, site.at? path.toText = .error fault) ∨
    site.at? path.toText = .ok none ∧ ¬ Text.Utf8.Encodable path.toText

/-- The configuration file of the working directory, whether it is there or not. -/
def defaultConfig (site : Site) : Path :=
  (Path.ofText site.cwd).join (Path.ofText Settings.defaultConfigName)

end Site

namespace Settings

/-! ### Single values -/

inductive IsPath (site : Site) : Value → Path → Prop where
  | there {s : Text} (there : site.Has (Path.ofText s)) : IsPath site (.str s) (Path.ofText s)

/-- A value is the word for one of several choices. -/
inductive IsWord {α : Type} (word : α → Text) : Value → α → Prop where
  | word (a : α) : IsWord word (.str (word a)) a

inductive IsExecutable : Value → Text → Prop where
  | text {s : Text} (nonempty : s ≠ []) (encodable : Text.Utf8.Encodable s) : IsExecutable (.str s) s

/-- A value stands for a number. An integer beyond all of the format does not. -/
inductive IsNumber : Value → Binary64 → Prop where
  | bool (b : Bool) : IsNumber (.bool b) (.ofInt (if b then 1 else 0))
  | int {n : Int} (bounded : ∀ negative, Binary64.ofInt n ≠ .infinite negative) :
      IsNumber (.int n) (.ofInt n)
  | float (x : Binary64) : IsNumber (.float x) x
  | text {s : Text} {x : Binary64} (encodable : Text.Utf8.Encodable s)
      (spelled : Binary64.ofLooseText? s = some x) : IsNumber (.str s) x

inductive IsTimeout : Value → Option Binary64 → Prop where
  | null : IsTimeout .null none
  | number {v : Value} {x : Binary64} (number : IsNumber v x) (positive : x.isPositive = true) :
      IsTimeout v (some x)

/-! ### Settings -/

inductive Name where
  | workspace
  | level
  | configPath
  | color
  | executable
  | timeout
  deriving DecidableEq, Repr

namespace Name

def all : List Name :=
  [.workspace, .level, .configPath, .color, .executable, .timeout]

def toText : Name → Text
  | .workspace => workspaceName
  | .level => levelName
  | .configPath => configPathName
  | .color => colorName
  | .executable => executableName
  | .timeout => timeoutName

end Name

/-- A setting is what its value says, or the default where it is not given. -/
inductive Means {α : Type} (name : Name) (fallback : α) (Reads : Value → α → Prop)
    (values : List (Text × Value)) : α → Prop where
  | given {v : Value} {a : α} (given : Value.member? name.toText values = some v)
      (reads : Reads v a) : Means name fallback Reads values a
  | absent (absent : Value.member? name.toText values = none) :
      Means name fallback Reads values fallback

section

variable (site : Site) (values : List (Text × Value))

/-- No configuration file is given, or null is. -/
def Unnamed : Prop :=
  Value.member? Name.configPath.toText values = none ∨
    Value.member? Name.configPath.toText values = some .null

/-- The configuration file is the one that is named; where none is, that of the working directory, if
it is a regular file. -/
inductive MeansConfigPath : Option Path → Prop where
  | named {v : Value} {path : Path} (given : Value.member? Name.configPath.toText values = some v)
      (reads : IsPath site v path) : MeansConfigPath (some path)
  | found (unnamed : Unnamed values) (there : site.HasFile site.defaultConfig.toText) :
      MeansConfigPath (some site.defaultConfig)
  | missing (unnamed : Unnamed values) (absent : ¬ site.HasFile site.defaultConfig.toText) :
      MeansConfigPath none

/-- A setting is what the values say that it is. -/
def Agrees (settings : Settings) : Name → Prop
  | .workspace => Means .workspace (Path.ofText Path.dot) (IsPath site) values settings.workspace
  | .level => Means .level .warning (IsWord Severity.label) values settings.level
  | .configPath => MeansConfigPath site values settings.configPath
  | .color => Means .color .auto (IsWord ColorMode.name) values settings.color
  | .executable =>
    Means .executable Server.defaultExecutable IsExecutable values settings.executable
  | .timeout => Means .timeout none IsTimeout values settings.timeout

/-- The values say something that a setting can be. -/
def Valid (name : Name) : Prop :=
  ∃ settings, Agrees site values settings name

/-! ### Readings -/

/-- A message has one entry for each setting that is not valid, in the order of the settings. -/
def Tells (message : Text) : Prop :=
  ∃ (invalid : List Name) (entries : List Text),
    invalid.Sublist Name.all ∧ (∀ name, name ∈ invalid ↔ ¬ Valid site values name) ∧
      List.Forall₂ (fun name entry => ∃ problem : Problem,
        entry = name.toText ++ text ": " ++ problem.message) invalid entries ∧
      message = Text.join (text "; ") entries

/-- A reading takes valid settings as the values say them, and refuses all others with what is wrong
with each. -/
structure Checked (result : Except Refusal Settings) : Prop where
  accepted : (∃ settings, result = .ok settings) ↔ ∀ name, Valid site values name
  agrees : ∀ settings, result = .ok settings ↔ ∀ name, Agrees site values settings name
  there : ∀ settings, result = .ok settings →
    site.Has settings.workspace ∧ ∀ path ∈ settings.configPath, site.Has path
  refused : (∃ name, ¬ Valid site values name) → ∃ faults, result = .error (.faults faults) ∧
    Tells site values (Refusal.faults faults).message

/-- A path stops the reading. -/
inductive Stopped : Prop where
  | workspace {s : Text} (given : Value.member? Name.workspace.toText values = some (.str s))
      (stops : site.Stops (Path.ofText s)) : Stopped
  | configPath {s : Text} (given : Value.member? Name.configPath.toText values = some (.str s))
      (stops : site.Stops (Path.ofText s)) : Stopped
  | fallback {fault : NameTooLong} (unnamed : Unnamed values)
      (tooLong : site.at? site.defaultConfig.toText = .error fault) : Stopped

end

end Settings

end CheckReport
