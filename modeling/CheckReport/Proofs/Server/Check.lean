import CheckReport.Proofs.Server.Command
import CheckReport.Server.ArtifactFirst

/-!
# What checks come to

A check of a server that was started goes by its file just if its time is one that is waited and its
output is text (`check_artifactFirst_iff`), and a check finds nothing just if its server is silent
(`result_eq_none_iff`).
-/

namespace CheckReport.Server

open Validation (bind_eq_ok map_eq_ok mapError_eq_ok toOption_eq_some)

variable {host : Host} {behaviour : Behaviour} {request : Request} {timeout : Option Binary64}
  {executable stderr : Text} {status : Int}

theorem isWritten_iff {site : Site} {path : Text} : isWritten site path = true ↔ site.HasFile path := by
  unfold isWritten Site.isFile Site.HasFile
  cases site.at? path with
  | error fault => simp [Except.map]
  | ok found =>
    cases found with
    | none => simp [Except.map]
    | some node => cases node <;> simp [Except.map, Node.isFile]

/-! ### Processes -/

/-- A process that was started ends in some way if it can be read. -/
theorem exists_ends_iff (started : behaviour.Started timeout) :
    (∃ status stderr, behaviour.Ends timeout status stderr) ↔ behaviour.Legible := by
  cases started with
  | exits product status stdout stderr =>
    constructor
    · rintro ⟨_, _, ends⟩
      cases ends with
      | exits _ _ out err => exact ⟨⟨_, out⟩, ⟨_, err⟩⟩
    · rintro ⟨⟨printed, out⟩, ⟨said, err⟩⟩
      exact ⟨status, said, .exits product status out err⟩
  | expires product stdout stderr set =>
    exact iff_of_true ⟨_, _, .expires product stdout stderr set⟩ trivial

theorem started_of_ends (ends : behaviour.Ends timeout status stderr) : behaviour.Started timeout := by
  cases ends with
  | exits => exact .exits _ _ _ _
  | expires product stdout caught set => exact .expires product stdout caught set

theorem ends_zero (ends : behaviour.Ends timeout 0 stderr) :
    ∃ product stdout stderr, behaviour = .exits product 0 stdout stderr := by
  cases ends with
  | exits product _ _ _ => exact ⟨product, _, _, rfl⟩

theorem tight_timeoutNote (limit : Binary64) : Text.Tight Text.isBlank (timeoutNote limit) := by
  constructor
  · intro c first
    obtain rfl : 0x43 = c := by simpa [timeoutNote, text] using first
    rfl
  · intro c last
    rw [timeoutNote, List.getLast?_append] at last
    obtain rfl : 0x73 = c := by simpa [text] using last
    rfl

theorem suffix_trim_withNote (stderr : Text) (limit : Binary64) :
    timeoutNote limit <:+ Text.trim Text.isBlank (withNote stderr (timeoutNote limit)) := by
  have split : ∃ before, withNote stderr (timeoutNote limit) = before ++ timeoutNote limit := by
    unfold withNote
    split
    · exact ⟨[], rfl⟩
    · exact ⟨stderr ++ [Text.newline], by rw [List.append_assoc]; rfl⟩
  obtain ⟨before, same⟩ := split
  have trimmed := Text.trimmed_trim Text.isBlank (before ++ timeoutNote limit)
  rw [same]
  exact trimmed.suffix (tight_timeoutNote limit)

section

variable [Platform]

theorem outcome_of_ends (waits : Waits timeout) (ends : behaviour.Ends timeout status stderr)
    (argv : List Text) :
    ∃ stdout, behaviour.outcome argv timeout = .ok ⟨argv, status, stdout, stderr⟩ := by
  cases ends with
  | exits product status out err =>
    rw [outcome_exits waits, read_eq_ok_iff.mpr out, read_eq_ok_iff.mpr err]
    exact ⟨_, rfl⟩
  | expires product stdout caught set =>
    rw [outcome_expires waits product stdout caught set]
    exact ⟨_, rfl⟩

theorem ends_of_outcome {argv : List Text} {finished : Finished}
    (done : behaviour.outcome argv timeout = .ok finished) :
    Waits timeout ∧ behaviour.Ends timeout finished.status finished.stderr := by
  cases behaviour with
  | missing => cases done
  | refused error => cases done
  | exits product status stdout stderr =>
    obtain ⟨_, waits, read⟩ := bind_eq_ok.mp done
    obtain ⟨printed, out, read⟩ := bind_eq_ok.mp read
    obtain ⟨said, err, same⟩ := bind_eq_ok.mp read
    cases same
    exact ⟨wait_eq_ok_iff.mp waits, .exits product status (read_eq_ok_iff.mp out)
      (read_eq_ok_iff.mp err)⟩
  | expires product stdout stderr =>
    obtain ⟨_, waits, kept⟩ := bind_eq_ok.mp done
    cases set : timeout with
    | none =>
      rw [set] at kept
      cases kept
    | some limit =>
      rw [set] at kept waits
      cases kept
      exact ⟨wait_eq_ok_iff.mp waits, .expires product stdout stderr rfl⟩

theorem run_of_ends {word : Text} {words : List Text} (found : resolve host word = some executable)
    (fit : Fit (executable :: words)) (waits : Waits timeout)
    (ends : behaviour.Ends timeout status stderr) :
    ∃ stdout, run host behaviour timeout (word :: words) =
      ⟨.ok ⟨executable :: words, status, stdout, stderr⟩, [⟨executable :: words, timeout⟩],
        deliver host.site (executable :: words) behaviour.product⟩ := by
  obtain ⟨stdout, finished⟩ := outcome_of_ends waits ends (executable :: words)
  refine ⟨stdout, ?_⟩
  simp only [run, found, finish_of_fit fit, finished, productOf_of_fit fit]

theorem ends_of_run {word : Text} {words : List Text} {finished : Finished}
    (done : (run host behaviour timeout (word :: words)).result = .ok finished) :
    ∃ executable, resolve host word = some executable ∧ Fit (executable :: words) ∧
      Waits timeout ∧ behaviour.Ends timeout finished.status finished.stderr := by
  cases found : resolve host word with
  | none =>
    simp only [run, found] at done
    cases done
  | some executable =>
    simp only [run, found] at done
    cases unfit : unfit? (executable :: words) with
    | some fault =>
      rw [finish_of_unfit unfit] at done
      cases done
    | none =>
      have fit := unfit?_eq_none_iff.mp unfit
      rw [finish_of_fit fit] at done
      exact ⟨executable, rfl, fit, ends_of_outcome done⟩

/-! ### Answers -/

theorem answer_of_hasFile {command : List Text} {site : Site} {path : Text}
    (written : site.HasFile path) (finished : Finished) :
    answer command site path (.of finished.status (isWritten site path)) finished =
      ((Artifact.load site path).map some).mapError CheckFault.ofArtifact := by
  rw [isWritten_iff.mpr written]
  unfold answer Outcome.of
  cases Artifact.load site path with
  | ok diagnosis => rfl
  | error fault => cases fault <;> rfl

/-- What is wrong with an artifact: it is malformed or cannot be read, which no command is. -/
theorem exists_ofArtifact {site : Site} {path : Text} {fault : CheckFault}
    (given : ((Artifact.load site path).map some).mapError CheckFault.ofArtifact = .error fault) :
    ∃ found, fault = .ofArtifact found := by
  cases loaded : Artifact.load site path with
  | ok diagnosis =>
    rw [loaded] at given
    cases given
  | error found =>
    rw [loaded] at given
    exact ⟨found, (Except.error.inj given).symm⟩

theorem answer_of_not_hasFile {command : List Text} {site : Site} {path : Text}
    (unwritten : ¬ site.HasFile path) (finished : Finished) :
    answer command site path (.of finished.status (isWritten site path)) finished =
      if finished.status = 0 then .ok none
      else .error (.failed (.of command finished.status finished.stderr)) := by
  rw [Bool.eq_false_iff.mpr (mt isWritten_iff.mp unwritten)]
  unfold Outcome.of
  by_cases zero : finished.status = 0
  · rw [if_neg Bool.false_ne_true, if_pos zero, if_pos zero]
    rfl
  · rw [if_neg Bool.false_ne_true, if_neg zero, if_neg zero]
    rfl

/-! ### Checks -/

section

variable {place : List Text}
  (found : resolve (host.withDirectory place) request.executable = some executable)
  (fit : Fit (executable :: (request.invocation place).command.tail))
  (waits : Waits request.timeout) (ends : behaviour.Ends request.timeout status stderr)

include found fit waits ends

theorem checkIn_of_ends :
    let run := checkIn place host behaviour request
    let invocation := request.invocation place
    let argv := executable :: invocation.command.tail
    run.calls = [⟨argv, request.timeout⟩] ∧
      run.tree = deliver (host.withDirectory place).site argv behaviour.product ∧
      ∃ finished : Finished, finished.status = status ∧ finished.stderr = stderr ∧
        run.result = answer invocation.command (run.after host) invocation.artifactPath
          (.of finished.status (isWritten (run.after host) invocation.artifactPath)) finished := by
  obtain ⟨stdout, ran⟩ := run_of_ends found fit waits ends
  have same : (request.invocation place).command =
    request.executable :: (request.invocation place).command.tail := rfl
  rw [← same] at ran
  simp only [checkIn, ran]
  exact ⟨rfl, rfl, _, rfl, rfl, rfl⟩

theorem result_of_written
    (written : (checkIn place host behaviour request).Written place host request) :
    (checkIn place host behaviour request).result =
      ((Artifact.load ((checkIn place host behaviour request).after host)
        (request.invocation place).artifactPath).map some).mapError CheckFault.ofArtifact := by
  obtain ⟨_, _, finished, rfl, rfl, result⟩ := checkIn_of_ends found fit waits ends
  exact result.trans (answer_of_hasFile written _)

theorem result_of_unwritten
    (unwritten : ¬ (checkIn place host behaviour request).Written place host request) :
    (checkIn place host behaviour request).result =
      if status = 0 then .ok none
      else .error (.failed (.of (request.invocation place).command status stderr)) := by
  obtain ⟨_, _, finished, rfl, rfl, result⟩ := checkIn_of_ends found fit waits ends
  exact result.trans (answer_of_not_hasFile unwritten _)

theorem stderr_of_failed {failure : Failure}
    (failed : (checkIn place host behaviour request).result = .error (.failed failure)) :
    failure.stderr = Text.trim Text.isBlank stderr := by
  by_cases written : (checkIn place host behaviour request).Written place host request
  · rw [result_of_written found fit waits ends written] at failed
    obtain ⟨fault, same⟩ := exists_ofArtifact failed
    cases fault <;> cases same
  · rw [result_of_unwritten found fit waits ends written] at failed
    split at failed
    · cases failed
    · cases failed
      rfl

end

/-! ### Checks that find nothing -/

theorem ran_of_result {invocation : Invocation} {site : Site} {ran : Run}
    {found : Option Diagnosis} (answered : (CheckRun.ofRun invocation site ran).result = .ok found) :
    ∃ finished, ran.result = .ok finished := by
  unfold CheckRun.ofRun at answered
  cases done : ran.result with
  | error fault =>
    simp only [done] at answered
    cases answered
  | ok finished => exact ⟨finished, rfl⟩

theorem started_of_result {place : List Text} {found : Option Diagnosis}
    (answered : (checkIn place host behaviour request).result = .ok found) :
    ∃ executable status stderr,
      resolve (host.withDirectory place) request.executable = some executable ∧
        Fit (executable :: (request.invocation place).command.tail) ∧ Waits request.timeout ∧
        behaviour.Ends request.timeout status stderr := by
  obtain ⟨finished, done⟩ := ran_of_result answered
  obtain ⟨executable, started, fit, waits, ends⟩ := ends_of_run done
  exact ⟨executable, _, _, started, fit, waits, ends⟩

theorem result_eq_none_iff {place : List Text} :
    (checkIn place host behaviour request).result = .ok none ↔
      Silent place host behaviour request (checkIn place host behaviour request) := by
  constructor
  · intro none
    obtain ⟨executable, status, stderr, found, fit, waits, ends⟩ := started_of_result none
    have unwritten : ¬ (checkIn place host behaviour request).Written place host request := by
      intro written
      rw [result_of_written found fit waits ends written, mapError_eq_ok, map_eq_ok] at none
      obtain ⟨_, _, absurd⟩ := none
      cases absurd
    have zero : status = 0 := by
      rw [result_of_unwritten found fit waits ends unwritten] at none
      by_contra nonzero
      rw [if_neg nonzero] at none
      cases none
    subst zero
    exact ⟨⟨executable, found, fit⟩, waits, ends_zero ends,
      (exists_ends_iff (started_of_ends ends)).mp ⟨0, stderr, ends⟩, unwritten⟩
  · rintro ⟨⟨executable, found, fit⟩, waits, ⟨product, stdout, stderr, rfl⟩, ⟨⟨_, out⟩, ⟨_, err⟩⟩,
      unwritten⟩
    exact result_of_unwritten found fit waits (.exits product 0 out err) unwritten

/-! ### Artifacts first -/

theorem artifactFirst_of_ends
    (found : resolve (host.withDirectory host.nextOutput) request.executable = some executable)
    (fit : Fit (executable :: (request.invocation host.nextOutput).command.tail))
    (waits : Waits request.timeout) (ends : behaviour.Ends request.timeout status stderr) :
    ArtifactFirst host.nextOutput host behaviour request executable status stderr
      (check host behaviour request) := by
  unfold check
  obtain ⟨calls, tree, _⟩ := checkIn_of_ends found fit waits ends
  refine ⟨calls, tree, result_of_written found fit waits ends, ?_, ?_, ?_, ?_⟩
  · rintro left ⟨_, _, file⟩
    cases left.symm.trans file
  · intro unwritten
    rw [result_of_unwritten found fit waits ends unwritten]
    by_cases zero : status = 0 <;> simp [zero]
  · intro unwritten nonzero
    rw [result_of_unwritten found fit waits ends unwritten, if_neg nonzero]
    exact ⟨_, Text.trimmed_trim _ _, rfl⟩
  · intro product stdout caught limit expires set
    subst expires
    cases ends with
    | expires _ _ _ set' =>
      obtain rfl : limit = _ := Option.some.inj (set.symm.trans set')
      refine ⟨rfl, fun failure failed => ?_⟩
      rw [stderr_of_failed found fit waits (.expires _ _ _ set) failed]
      exact suffix_trim_withNote _ _

/-- A check that goes by a file, or by a status, is not given up. -/
theorem ArtifactFirst.result_ne_notRun {place : List Text} {checked : CheckRun}
    (first : ArtifactFirst place host behaviour request executable status stderr checked)
    (fault : RunFault) : checked.result ≠ .error (.notRun fault) := by
  intro given
  by_cases written : checked.Written place host request
  · rw [first.written written] at given
    obtain ⟨found, same⟩ := exists_ofArtifact given
    cases found <;> cases same
  · by_cases zero : status = 0
    · cases given.symm.trans ((first.none_iff written).mpr zero)
    · obtain ⟨said, -, failed⟩ := first.failed written zero
      cases given.symm.trans failed

theorem result_of_failed {place : List Text} {fault : RunFault}
    (found : resolve (host.withDirectory place) request.executable = some executable)
    (failed : behaviour.finish (executable :: (request.invocation place).command.tail)
      request.timeout = .error fault) :
    (checkIn place host behaviour request).result =
      .error (notRun (request.invocation place).command fault) := by
  have same : (request.invocation place).command =
    request.executable :: (request.invocation place).command.tail := rfl
  have ran : (run (host.withDirectory place) behaviour request.timeout
      (request.invocation place).command).result = .error fault := by
    rw [same]
    simp only [run, found, failed]
  simp only [checkIn, CheckRun.ofRun, ran]

theorem notRun_of_given_up {place : List Text}
    (found : resolve (host.withDirectory place) request.executable = some executable)
    (fit : Fit (executable :: (request.invocation place).command.tail))
    (started : behaviour.Started request.timeout)
    (givenUp : ¬ (Waits request.timeout ∧ behaviour.Legible)) :
    ∃ fault,
      Fails executable (request.invocation place).command.tail request.timeout behaviour fault ∧
        (checkIn place host behaviour request).result = .error (.notRun fault) := by
  cases done : behaviour.finish (executable :: (request.invocation place).command.tail)
      request.timeout with
  | ok finished =>
    rw [finish_of_fit fit] at done
    obtain ⟨waits, ends⟩ := ends_of_outcome done
    exact absurd ⟨waits, (exists_ends_iff started).mp ⟨_, _, ends⟩⟩ givenUp
  | error fault =>
    have fails := finish_eq_error_iff.mp done
    refine ⟨fault, fails, (result_of_failed found done).trans ?_⟩
    -- of the errors of a call, only the one that there is no executable makes a failed command
    cases fails with
    | missing => cases started
    | unfit | refused | overlong | stdout | stderr | unset => rfl

/-- A check of a server that was started goes by the file that the server leaves, and where there is
none by the status, just if the time is one that the system waits and the output of the server is
text. Otherwise it ends with the error of the call, whatever file there is. -/
theorem check_artifactFirst_iff
    (found : resolve (host.withDirectory host.nextOutput) request.executable = some executable)
    (fit : Fit (executable :: (request.invocation host.nextOutput).command.tail))
    (started : behaviour.Started request.timeout) :
    let run := check host behaviour request
    ((∃ status stderr,
        ArtifactFirst host.nextOutput host behaviour request executable status stderr run) ↔
      Waits request.timeout ∧ behaviour.Legible) ∧
    (Waits request.timeout → ∀ status stderr, behaviour.Ends request.timeout status stderr →
      ArtifactFirst host.nextOutput host behaviour request executable status stderr run) ∧
    (¬ (Waits request.timeout ∧ behaviour.Legible) → ∃ fault,
      Fails executable (request.invocation host.nextOutput).command.tail request.timeout behaviour
        fault ∧ run.result = .error (.notRun fault)) := by
  intro run
  have stops := notRun_of_given_up found fit started
  refine ⟨⟨?_, ?_⟩, fun waits _ _ => artifactFirst_of_ends found fit waits, stops⟩
  · rintro ⟨status, stderr, first⟩
    by_contra givenUp
    obtain ⟨fault, -, stopped⟩ := stops givenUp
    exact first.result_ne_notRun fault stopped
  · rintro ⟨waits, legible⟩
    obtain ⟨status, stderr, ends⟩ := (exists_ends_iff started).mpr legible
    exact ⟨status, stderr, artifactFirst_of_ends found fit waits ends⟩

end

attribute [local instance] Platform.loose

/-- A server that ran out of time and left a directory in place of a file. -/
theorem check_artifactFirst_iff_directory :
    let host : Host := ⟨⟨⟨[]⟩, text "/"⟩, []⟩
    let request : Request :=
      { workspace := ⟨.single, [text "work"]⟩, executable := text "/opt/server",
        timeout := some (Binary64.ofInt 30) }
    let behaviour : Behaviour := .expires (some .directory) none (some (.bytes (0xFF :: text "late")))
    let stderr := text "late\nCommand timed out after 30.0s"
    let run := check host behaviour request
    resolve (host.withDirectory host.nextOutput) request.executable = some (text "/opt/server") ∧
      Fit (text "/opt/server" :: (request.invocation host.nextOutput).command.tail) ∧
      behaviour.Started request.timeout ∧ Waits request.timeout ∧
      (run.after host).at? (request.invocation host.nextOutput).artifactPath = .ok (some .directory) ∧
      ArtifactFirst host.nextOutput host behaviour request (text "/opt/server") 124 stderr run := by
  intro host request behaviour stderr run
  have found : resolve (host.withDirectory host.nextOutput) request.executable =
    some (text "/opt/server") := by decide +kernel
  have fit : Fit (text "/opt/server" :: (request.invocation host.nextOutput).command.tail) :=
    unfit?_eq_none_iff.mp (by decide +kernel)
  have waits : Waits request.timeout := wait_eq_ok_iff.mp (by decide +kernel)
  have started : behaviour.Started request.timeout := .expires _ _ _ rfl
  have ends : behaviour.Ends request.timeout 124 stderr := by
    have caught : Output.toText (some (.bytes (0xFF :: text "late"))) = text "late" := by
      decide +kernel
    have note : timeoutNote (Binary64.ofInt 30) = text "Command timed out after 30.0s" := by
      decide +kernel
    have noted : withNote (Output.toText (some (.bytes (0xFF :: text "late"))))
        (timeoutNote (Binary64.ofInt 30)) = stderr := by
      rw [caught, note]
      rfl
    rw [← noted]
    exact .expires _ _ _ rfl
  have first := (check_artifactFirst_iff found fit started).2.1 waits 124 stderr ends
  have left : (run.after host).at? (request.invocation host.nextOutput).artifactPath =
      .ok (some .directory) := by
    rw [CheckRun.after, first.tree]
    exact toOption_eq_some.mp (by decide +kernel)
  exact ⟨found, fit, started, waits, left, first⟩

/-- A file was left, and the check ends with an error all the same: of a byte on standard error that is
no text, and of a time without end. -/
theorem check_loses_artifact :
    let host : Host := ⟨⟨⟨[]⟩, text "/"⟩, []⟩
    let content := text "\x7b\"file:///a\": []\x7d"
    let request (timeout : Option Binary64) : Request :=
      { workspace := ⟨.single, [text "work"]⟩, executable := text "/opt/server", timeout := timeout }
    let illegible : Behaviour := .exits (some (.file content)) 0 (.text []) (.bytes [0xFF])
    let legible : Behaviour := .exits (some (.file content)) 0 (.text []) (.text [])
    let endless : Option Binary64 := some (.infinite false)
    let left (run : CheckRun) := (run.after host).at? (text "/tmp/llscheck-00000000/check.json")
    illegible.Started none ∧ legible.Started endless ∧
      left (check host illegible (request none)) = .ok (some (.file false content)) ∧
      (check host illegible (request none)).result =
        .error (.notRun (.undecodable ⟨0, [0xFF], .invalidStart⟩)) ∧
      left (check host legible (request endless)) = .ok (some (.file false content)) ∧
      (check host legible (request endless)).result =
        .error (.notRun (.overlong (.infinite false))) := by
  intro host content request illegible legible endless left
  have found (timeout : Option Binary64) :
      resolve (host.withDirectory host.nextOutput) (request timeout).executable =
        some (text "/opt/server") := by
    change resolve (host.withDirectory host.nextOutput) (text "/opt/server") = _
    decide +kernel
  let argv (timeout : Option Binary64) : List Text :=
    text "/opt/server" :: ((request timeout).invocation host.nextOutput).command.tail
  have undecodable : illegible.finish (argv none) none =
      .error (.undecodable ⟨0, [0xFF], .invalidStart⟩) := by decide +kernel
  have overlong : legible.finish (argv endless) endless =
      .error (.overlong (.infinite false)) := by decide +kernel
  refine ⟨.exits _ _ _ _, .exits _ _ _ _, ?_, ?_, ?_, ?_⟩
  · exact toOption_eq_some.mp (by decide +kernel)
  · exact result_of_failed (found none) undecodable
  · exact toOption_eq_some.mp (by decide +kernel)
  · exact result_of_failed (found endless) overlong

end CheckReport.Server
