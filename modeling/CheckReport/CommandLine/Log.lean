import CheckReport.CommandLine.Gate

/-!
# Logs of runs

What a run of a command line logs, and the same command line without the option that asks for it.
-/

namespace CheckReport.CommandLine

open Server (Behaviour CheckRun)
open Terminal (Environment Stream)

/-- The lines that tell of a check: those of the check itself, and one more if it came to nothing. -/
def linesOf (workspace : Path) (check : CheckRun) : List Text :=
  checkLog check.log ++ match check.result with
    | .ok none => [logLine commandOrigin (unwrittenLine workspace)]
    | _ => []

/-- What a run logs, if the log is on: of a command line that cannot be used, nothing. -/
inductive Logs [Platform] (session : Session) (environment : Environment) (stream : Stream)
    (behaviour : Behaviour) (words : List Text) : List Text → Prop where
  | unusable (stops : ∀ options settings painter,
      ¬ Usable session environment stream words options settings painter) :
      Logs session environment stream behaviour words []
  | check {options : Options} {settings : Settings} {painter : Terminal.Painter}
      (usable : Usable session environment stream words options settings painter) :
      Logs session environment stream behaviour words (linesOf settings.workspace
        (Server.check (session.host environment) behaviour settings.request))

/-! ### Without the log -/

def Words.quiet (words : Words) : Words :=
  { words with flags := words.flags.filter (· ≠ .verbose) }

def Options.quiet (options : Options) : Options :=
  { options with verbose := false }

/-- The words of a command line without those that ask for the log. Words that are values, or that
stand after the options, stay. -/
def withoutVerbose : List Text → List Text
  | [] => []
  | word :: rest =>
    if word = [hyphen, hyphen] then word :: rest
    else if !isOption word then word :: withoutVerbose rest
    else
      let name := word.takeWhile (· ≠ equals)
      let value := (word.dropWhile (· ≠ equals)).tail?
      match Setting.ofName? name, value with
      | _, some _ => word :: withoutVerbose rest
      | some _, none =>
        match rest with
        | [] => [word]
        | value :: rest => word :: value :: withoutVerbose rest
      | none, none =>
        match Flag.ofName? name, letters? word with
        | some .verbose, _ => withoutVerbose rest
        | some .noColor, _ => word :: withoutVerbose rest
        | none, some _ => withoutVerbose rest
        | none, none => word :: withoutVerbose rest

end CheckReport.CommandLine
