import CheckReport.Server.Check
import CheckReport.Server.Command
import CheckReport.Text.Trimmed

/-!
# Artifacts first

What a check of a server that was started comes to: what the file it left holds, whatever became of
the process; only where it left no file, the status counts. A process that is given up because its
output is no text, or its time too long, comes to none of this.
-/

namespace CheckReport

/-- A path leads to a regular file. -/
def Site.HasFile (site : Site) (path : Text) : Prop :=
  ∃ executable content, site.at? path = .ok (some (.file executable content))

namespace Server

/-- What a process wrote by its end can be read as text. What was caught as its time ran out is read in
any case. -/
def Behaviour.Legible : Behaviour → Prop
  | .exits _ _ stdout stderr => (∃ s, Reads stdout s) ∧ ∃ s, Reads stderr s
  | _ => True

/-- A process, once started, ends with a status and with something written to standard error: by
itself, or as the time that was set runs out. -/
inductive Behaviour.Ends (timeout : Option Binary64) : Behaviour → Int → Text → Prop where
  | exits (product : Option Product) (status : Int) {stdout stderr : Output} {printed said : Text}
      (out : Reads stdout printed) (err : Reads stderr said) :
      Ends timeout (.exits product status stdout stderr) status said
  | expires (product : Option Product) (stdout stderr : Option Output) {limit : Binary64}
      (set : timeout = some limit) :
      Ends timeout (.expires product stdout stderr) timeoutStatus
        (withNote (Output.toText stderr) (timeoutNote limit))

/-- The files after a check. -/
def CheckRun.after (run : CheckRun) (host : Host) : Site :=
  { host.site with tree := run.tree }

def CheckFault.ofArtifact : Artifact.Fault → CheckFault
  | .malformed fault => .malformed fault
  | .unreadable fault => .unreadable fault

section

variable (place : List Text) (host : Host) (behaviour : Behaviour) (request : Request)

/-- There is a file for the diagnosis after a check. -/
def CheckRun.Written (run : CheckRun) : Prop :=
  (run.after host).HasFile (request.invocation place).artifactPath

variable [Platform]

/-- What a check comes to whose server was started as `executable`, and ended with a status and with
something on standard error. -/
structure ArtifactFirst (executable : Text) (status : Int) (stderr : Text) (run : CheckRun) :
    Prop where
  calls : run.calls =
    [⟨executable :: (request.invocation place).command.tail, request.timeout⟩]
  /-- The files are as the product alone makes them. -/
  tree : run.tree = deliver (host.withDirectory place).site
    (executable :: (request.invocation place).command.tail) behaviour.product
  written : run.Written place host request → run.result =
    ((Artifact.load (run.after host) (request.invocation place).artifactPath).map some).mapError
      CheckFault.ofArtifact
  directory : (run.after host).at? (request.invocation place).artifactPath = .ok (some .directory) →
    ¬ run.Written place host request
  none_iff : ¬ run.Written place host request → (run.result = .ok none ↔ status = 0)
  failed : ¬ run.Written place host request → status ≠ 0 →
    ∃ said, Text.Trimmed Text.isBlank stderr said ∧
      run.result = .error (.failed ⟨(request.invocation place).command, status, said⟩)
  expired : ∀ product stdout caught limit, behaviour = .expires product stdout caught →
    request.timeout = some limit → status = 124 ∧
      ∀ failure, run.result = .error (.failed failure) → timeoutNote limit <:+ failure.stderr

/-- The server ran to its end with status 0 and left no file. -/
structure Silent (run : CheckRun) : Prop where
  started : ∃ executable, resolve (host.withDirectory place) request.executable = some executable ∧
    Fit (executable :: (request.invocation place).command.tail)
  waits : Waits request.timeout
  clean : ∃ product stdout stderr, behaviour = .exits product 0 stdout stderr
  legible : behaviour.Legible
  unwritten : ¬ run.Written place host request

end

end Server

end CheckReport
