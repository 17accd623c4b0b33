import CheckReport.CommandLine.Gate
import CheckReport.Proofs.Report.Accounts
import CheckReport.Proofs.Server.Check
import CheckReport.Proofs.Terminal.Notice

/-!
# Every run is a gate

The status of a run and what it writes follow from the answer of the check (`run_gate`).
-/

namespace CheckReport

open Server (Behaviour CheckFault)
open Validation (map_eq_ok toOption_eq_some)
open Terminal (Environment Stream Painter Notice)

namespace CommandLine

variable {painter : Painter} {cwd : Text} {workspace : Path} {diagnosis : Diagnosis}

/-! ### Conclusions -/

theorem reportStatus_eq {report : Report} (made : Report.ofDiagnosis cwd diagnosis = .ok report) :
    reportStatus report = if diagnosis.diagnostics = [] then 0 else 1 := by
  obtain ⟨_, rfl⟩ := Report.ofDiagnosis_eq_ok_iff.mp made
  have total : (Report.whole cwd diagnosis).stats.total = 0 ↔ diagnosis.diagnostics = [] :=
    Report.total_eq_zero_iff
  simp only [reportStatus, total]
  rfl

theorem conclude_diagnosis {report : Report} (made : Report.ofDiagnosis cwd diagnosis = .ok report) :
    conclude painter cwd workspace (.ok (some diagnosis)) =
      (.status (if diagnosis.diagnostics = [] then 0 else 1), printed painter report, [], none) := by
  simp only [conclude, reported, made, reportStatus_eq made]

theorem conclude_fault {fault : CheckFault} (noticed : fault.Noticed) :
    ∃ notice, conclude painter cwd workspace (.error fault) = (.status 255, [], [], some notice) := by
  cases fault with
  | failed failure => exact ⟨_, rfl⟩
  | malformed fault => exact ⟨_, rfl⟩
  | unreadable fault => cases noticed
  | notRun fault => cases noticed

/-! ### Gates -/

section

variable {answer : Except CheckFault (Option Diagnosis)} {result : Result} {quiet : Prop}

theorem gate_of_fault {fault : CheckFault} (given : answer = .error fault)
    (ending : result.ending = .status 255) (stdout : result.stdout = [])
    (stderr : quiet → result.stderr ≠ []) :
    Gate painter cwd answer (answer = .ok none) quiet result := by
  subst given
  constructor
  · simp [ending]
  · simp [ending]
  · simp [ending]
  · intro diagnosis s stats absent
    cases absent
  · exact fun _ => stdout
  · intro still
    simp [ending, stderr still]

theorem gate_of_none (given : answer = .ok none) (ending : result.ending = .status 0)
    (stdout : result.stdout = []) (stderr : quiet → result.stderr = []) :
    Gate painter cwd answer (answer = .ok none) quiet result := by
  subst given
  constructor
  · simp [ending]
  · simp [ending]
  · simp [ending]
  · intro diagnosis s stats absent
    cases absent
  · exact fun _ => stdout
  · intro still
    simp [ending, stderr still]

theorem gate_of_diagnosis {report : Report} (given : answer = .ok (some diagnosis))
    (made : Report.ofDiagnosis cwd diagnosis = .ok report)
    (ending : result.ending = .status (if diagnosis.diagnostics = [] then 0 else 1))
    (stdout : result.stdout = printed painter report) (stderr : quiet → result.stderr = []) :
    Gate painter cwd answer (answer = .ok none) quiet result := by
  subst given
  constructor
  · by_cases empty : diagnosis.diagnostics = [] <;> simp [ending, empty]
  · by_cases empty : diagnosis.diagnostics = [] <;> simp [ending, empty]
  · by_cases empty : diagnosis.diagnostics = [] <;> simp [ending, empty]
  · intro _ s stats same rendered
    cases same
    obtain ⟨_, made', same⟩ := map_eq_ok.mp rendered
    obtain rfl := Except.ok.inj (made.symm.trans made')
    cases same
    exact stdout
  · exact fun absent => absurd rfl (absent diagnosis)
  · intro still
    by_cases empty : diagnosis.diagnostics = [] <;> simp [ending, empty, stderr still]

end

/-! ### Runs -/

section

variable [Platform] {session : Session} {environment : Environment} {stream : Stream}
  {words : List Text} {options : Options} {settings : Settings}

theorem run_of_usable (usable : Usable session environment stream words options settings painter)
    (behaviour : Behaviour) :
    run session environment stream behaviour words =
      runWith ((session.withLog options.verbose).install painter) environment behaviour settings := by
  obtain ⟨read, valid, painted⟩ := usable
  have valid : Settings.ofValues (session.withLog options.verbose).site options.values =
    .ok settings := valid
  simp only [run, read, valid, painted]

theorem runWith_of_conclude {behaviour : Behaviour} {ending : Ending} {output : Text}
    {log : List Text} {notice : Option Notice}
    (concluded : conclude session.painter session.site.cwd settings.workspace
      (Server.check (session.host environment) behaviour settings.request).result =
        (ending, output, log, notice)) :
    let result := (runWith session environment behaviour settings).1
    result.ending = ending ∧ result.stdout = output ∧
      (session.verbose = false →
        result.stderr = notice.elim [] (Notice.render session.painter)) := by
  simp only [runWith, Session.check, concluded, true_and]
  intro quiet
  rw [Session.logged, quiet, tellAny_fst]
  rfl

theorem gate_runWith {behaviour : Behaviour}
    (showable : Showable session.painter session.site.cwd
      (Server.check (session.host environment) behaviour settings.request).result) :
    let answer := (Server.check (session.host environment) behaviour settings.request).result
    Gate session.painter session.site.cwd answer (answer = .ok none) (session.verbose = false)
      (runWith session environment behaviour settings).1 := by
  intro answer
  cases given : answer with
  | error fault =>
    obtain ⟨notice, concluded⟩ := conclude_fault (showable.fault fault given)
    obtain ⟨ending, stdout, stderr⟩ := runWith_of_conclude (given ▸ concluded)
    exact gate_of_fault rfl ending stdout fun quiet =>
      (stderr quiet).symm ▸ Notice.render_ne_nil session.painter notice
  | ok found =>
    cases found with
    | none =>
      have concluded : conclude session.painter session.site.cwd settings.workspace answer =
          (.status 0, [], [logLine commandOrigin (unwrittenLine settings.workspace)], none) := by
        rw [given]
        rfl
      obtain ⟨ending, stdout, stderr⟩ := runWith_of_conclude concluded
      exact gate_of_none rfl ending stdout stderr
    | some diagnosis =>
      obtain ⟨rendered, shown⟩ := showable.diagnosis diagnosis given
      obtain ⟨report, made, -⟩ := map_eq_ok.mp shown
      obtain ⟨ending, stdout, stderr⟩ := runWith_of_conclude (given ▸ conclude_diagnosis made)
      exact gate_of_diagnosis rfl made ending stdout stderr

/-- The status of a run is a gate for the workspace, and what is written goes with it. -/
theorem run_gate (usable : Usable session environment stream words options settings painter)
    (behaviour : Behaviour)
    (showable : Showable painter session.site.cwd
      (Server.check (session.host environment) behaviour settings.request).result) :
    let host := session.host environment
    let check := Server.check host behaviour settings.request
    Gate painter session.site.cwd check.result
      (Server.Silent host.nextOutput host behaviour settings.request check)
      (session.verbose = false ∧ options.verbose = false)
      (run session environment stream behaviour words).1 := by
  intro host check
  have silent_iff : check.result = .ok none ↔
    Server.Silent host.nextOutput host behaviour settings.request check := Server.result_eq_none_iff
  let installed : Session := (session.withLog options.verbose).install painter
  have shown : Showable installed.painter installed.site.cwd
    (Server.check (installed.host environment) behaviour settings.request).result := showable
  rw [← silent_iff, run_of_usable usable, ← Bool.or_eq_false_iff]
  exact gate_runWith shown

end

attribute [local instance] Platform.loose

/-- A server that finds a problem and exits with status 0 all the same. -/
theorem run_gate_problem :
    let session : Session := { site := ⟨⟨[([text "work"], .directory)]⟩, text "/"⟩ }
    let words := [text "--executable=/opt/server", text "work"]
    let options : Options := { workspace := ⟨.none, [text "work"]⟩, executable := text "/opt/server" }
    let settings : Settings :=
      { workspace := ⟨.none, [text "work"]⟩, executable := text "/opt/server" }
    let behaviour : Behaviour := .exits (some (.file (text ("\x7b\"file:///a\": [\x7b\"code\": \"c\", " ++
      "\"message\": \"m\", \"range\": \x7b\"start\": \x7b\"line\": 0, \"character\": 0\x7d, " ++
      "\"end\": \x7b\"character\": 1\x7d\x7d, \"severity\": 1\x7d]\x7d")))) 0 (.text []) (.text [])
    let host := session.host []
    let check := Server.check host behaviour settings.request
    let result := (run session [] .file behaviour words).1
    Usable session [] .file words options settings ⟨false⟩ ∧
      Showable ⟨false⟩ (text "/") check.result ∧
      Gate ⟨false⟩ (text "/") check.result
        (Server.Silent host.nextOutput host behaviour settings.request check)
        (session.verbose = false ∧ options.verbose = false) result ∧
      result.ending = .status 1 := by
  intro session words options settings behaviour host check result
  let diagnosis : Diagnosis :=
    [(text "file:///a", [⟨text "c", text "m", ⟨⟨0, 0⟩, ⟨none, 1⟩⟩, .error⟩])]
  have usable : Usable session [] .file words options settings ⟨false⟩ :=
    ⟨by decide +kernel, rfl, rfl⟩
  have loaded : check.result = .ok (some diagnosis) := toOption_eq_some.mp (by decide +kernel)
  have shown : (Report.rendered ⟨false⟩ (text "/") diagnosis).toOption.isSome := by decide +kernel
  have showable : Showable ⟨false⟩ (text "/") check.result := by
    rw [loaded]
    constructor
    · intro fault absent
      cases absent
    · intro diagnosis same
      cases same
      obtain ⟨rendered, some⟩ := Option.isSome_iff_exists.mp shown
      exact ⟨rendered, toOption_eq_some.mp some⟩
  have gate := run_gate usable behaviour showable
  exact ⟨usable, showable, gate, gate.problems.mpr ⟨diagnosis, loaded, List.cons_ne_nil _ _⟩⟩

end CommandLine

end CheckReport
