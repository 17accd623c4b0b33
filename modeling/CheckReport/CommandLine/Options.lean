import CheckReport.Settings

/-!
# Options

The words of a command line: options, some with a value, which is the next word or stands after an
equals sign, and one workspace. Of an option given twice the last value counts. A word of two
hyphens ends the options. A command line that cannot be read is refused as a whole. How a word is
asked for as a path, and which number a word spells, is left to the platform.
-/

namespace CheckReport.CommandLine

open Terminal (ColorMode Environment)

inductive Setting where
  | level
  | configPath
  | color
  | executable
  | timeout
  deriving DecidableEq, Repr

inductive Flag where
  | noColor
  | verbose
  deriving DecidableEq, Repr

/-- What a command line gives, before any of it is looked at. -/
structure Words where
  settings : List (Setting × Text) := []
  flags : List Flag := []
  positional : List Text := []
  deriving DecidableEq, Repr

def Setting.ofName? (s : Text) : Option Setting :=
  if s = text "--checklevel" then some .level
  else if s = text "--configpath" then some .configPath
  else if s = text "--color" then some .color
  else if s = text "--executable" then some .executable
  else if s = text "--timeout" then some .timeout
  else none

def Flag.ofName? (s : Text) : Option Flag :=
  if s = text "--no-color" then some .noColor
  else if s = text "--verbose" then some .verbose
  else none

def hyphen : Nat := 0x2D

def equals : Nat := 0x3D

/-- Whether a word is an option: it starts with a hyphen and is not only that. -/
def isOption (word : Text) : Bool :=
  word.head? = some hyphen && word.length > 1

def letters? (word : Text) : Option (List Flag) :=
  match word with
  | 0x2D :: cs => if cs.all (· = 0x76) then some (cs.map fun _ => .verbose) else none
  | _ => none

namespace Words

def addSetting (setting : Setting) (value : Text) (words : Words) : Words :=
  { words with settings := (setting, value) :: words.settings }

def addFlags (flags : List Flag) (words : Words) : Words :=
  { words with flags := flags ++ words.flags }

def addPositional (word : Text) (words : Words) : Words :=
  { words with positional := word :: words.positional }

/-- What the words of a command line give, in their order. -/
def read? : List Text → Option Words
  | [] => some {}
  | word :: rest =>
    if word = [hyphen, hyphen] then some { positional := rest }
    else if !isOption word then (read? rest).map (addPositional word)
    else
      let name := word.takeWhile (· ≠ equals)
      let value := (word.dropWhile (· ≠ equals)).tail?
      match Setting.ofName? name, value with
      | some setting, some value => (read? rest).map (addSetting setting value)
      | some setting, none =>
        match rest with
        | [] => none
        | value :: rest => (read? rest).map (addSetting setting value)
      | none, some _ => none
      | none, none =>
        match Flag.ofName? name, letters? word with
        | some flag, _ => (read? rest).map (addFlags [flag])
        | none, some flags => (read? rest).map (addFlags flags)
        | none, none => none

/-- The value of a setting: of several, the last. -/
def value? (words : Words) (setting : Setting) : Option Text :=
  (words.settings.reverse.find? (·.1 = setting)).map (·.2)

end Words

structure Options where
  workspace : Path := Path.ofText Path.dot
  level : Severity := .warning
  configPath : Option Path := none
  color : ColorMode := .auto
  executable : Text := Server.defaultExecutable
  timeout : Option Binary64 := none
  verbose : Bool := false
  deriving DecidableEq, Repr

namespace Options

/-- The variable that names the executable if no option does. -/
def executableVariable : Text := text "LLSCHECK_EXECUTABLE"

/-- An option's value, read; where the option is not given, the default. -/
def readOr {α : Type} (fallback : α) (read? : Text → Option α) : Option Text → Option α
  | none => some fallback
  | some s => read? s

section

variable [Platform]

/-- What a word leads to that gives a path. -/
def node? (site : Site) (word : Text) : Option Node :=
  match site.at? (if Platform.asWritten then word else (Path.ofText word).toText) with
  | .ok found => found
  | .error _ => none

def existing? (site : Site) (word : Text) : Option Path :=
  (node? site word).map fun _ => Path.ofText word

def file? (site : Site) (word : Text) : Option Path :=
  ((node? site word).filter Node.isFile).map fun _ => Path.ofText word

/-- The workspace, of which there may be one. -/
def workspace? (site : Site) : List Text → Option Path
  | [] => existing? site Path.dot
  | [s] => existing? site s
  | _ => none

end

/-- The executable of the environment, or the default. -/
def executableFrom (environment : Environment) : Text :=
  let value := environment.value executableVariable
  if value = [] then Server.defaultExecutable else value

def ofWords? [Platform] (site : Site) (environment : Environment) (words : Words) : Option Options := do
  let workspace ← workspace? site words.positional
  let level ← readOr .warning Severity.ofLabelAnyCase? (words.value? .level)
  let configPath ← readOr none (fun s => (file? site s).map some) (words.value? .configPath)
  let color ← readOr .auto ColorMode.ofName? (words.value? .color)
  let timeout ← readOr none (fun s => (Platform.time? s).map some) (words.value? .timeout)
  return {
    workspace := workspace
    level := level
    configPath := configPath
    color := if words.flags.contains .noColor then .never else color
    executable := (words.value? .executable).getD (executableFrom environment)
    timeout := timeout
    verbose := words.flags.contains .verbose }

/-- What a command line asks for, if it can be read. -/
def read? [Platform] (site : Site) (environment : Environment) (words : List Text) : Option Options :=
  (Words.read? words).bind (ofWords? site environment)

def values (options : Options) : List (Text × Json.Value) :=
  [(Settings.workspaceName, .str options.workspace.toText),
    (Settings.levelName, .str options.level.label),
    (Settings.configPathName,
      match options.configPath with
      | none => .null
      | some path => .str path.toText),
    (Settings.colorName, .str options.color.name),
    (Settings.executableName, .str options.executable),
    (Settings.timeoutName,
      match options.timeout with
      | none => .null
      | some x => .float x)]

end Options

end CheckReport.CommandLine
