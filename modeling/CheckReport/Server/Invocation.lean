import CheckReport.Path.Basic
import CheckReport.Severity
import CheckReport.Text.Shell

/-!
# Invocations

How the language server is asked to check a workspace, and what is known of a run that failed.
-/

namespace CheckReport.Server

/-- The executable that is run if no other is named. -/
def defaultExecutable : Text := text "lua-language-server"

/-- The file in the output directory that the diagnosis is written to. -/
def artifactName : Text := text "check.json"

structure Invocation where
  workspace : Path
  /-- The least severity that the server reports. -/
  level : Severity
  outputDirectory : Path
  configPath : Option Path := none
  executable : Text := defaultExecutable
  deriving DecidableEq, Repr

def artifactOption : Text := text "--check_out_path"

namespace Invocation

def artifactPath (invocation : Invocation) : Text :=
  (invocation.outputDirectory.join (Path.ofText artifactName)).toText

def command (invocation : Invocation) : List Text :=
  [invocation.executable,
    text "--check", invocation.workspace.toText,
    text "--checklevel", invocation.level.label,
    text "--check_format", text "json",
    artifactOption, invocation.artifactPath,
    text "--logpath", invocation.outputDirectory.toText] ++
  match invocation.configPath with
  | none => []
  | some path => [text "--configpath", path.toText]

end Invocation

structure Failure where
  command : List Text
  status : Int
  /-- What the run wrote to standard error, without blanks at the ends. -/
  stderr : Text
  deriving DecidableEq, Repr

namespace Failure

def of (command : List Text) (status : Int) (stderr : Text) : Failure :=
  ⟨command, status, Text.trim Text.isBlank stderr⟩

def commandLine (failure : Failure) : Text :=
  Text.Shell.joinWords failure.command

def message (failure : Failure) : Text :=
  text "Command failed: " ++ failure.commandLine

end Failure

end CheckReport.Server
