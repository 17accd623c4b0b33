import CheckReport.Proofs.CommandLine.Gate

/-!
# Servers that do not start are told of

A server that is not there is a failure of its command; one that the system refuses to start is not
(`unstarted_tells_iff`).
-/

namespace CheckReport

open Terminal (Environment Stream Painter Notice)

namespace Server

variable {host : Host} {behaviour : Behaviour} {request : Request} {fault : RunFault} {word : Text}

/-! ### Messages -/

theorem tight_append_quote {note path : Text} (nonempty : note ≠ [])
    (first : ∀ c ∈ note.head?, Text.isBlank c = false) :
    Text.Tight Text.isBlank (note ++ Text.Quoted.quote path) := by
  constructor
  · rw [List.head?_append_of_ne_nil _ nonempty]
    exact first
  · intro c last
    have closed : note ++ Text.Quoted.quote path =
      (note ++ Text.Quoted.mark path :: path.flatMap (Text.Quoted.escape (Text.Quoted.mark path))) ++
        [Text.Quoted.mark path] := by simp [Text.Quoted.quote]
    rw [closed, List.getLast?_concat] at last
    obtain rfl := Option.some.inj last
    unfold Text.Quoted.mark
    split <;> rfl

theorem tight_notFound (name : Text) : Text.Tight Text.isBlank (RunFault.notFound name).message := by
  constructor
  · intro c first
    obtain rfl : 0x45 = c := by simpa [RunFault.message, text] using first
    rfl
  · intro c last
    rw [RunFault.message, List.getLast?_append] at last
    obtain rfl : 0x48 = c := by simpa [text] using last
    rfl

theorem tight_missing (path : Text) : Text.Tight Text.isBlank (RunFault.missing path).message :=
  tight_append_quote (List.cons_ne_nil _ _) (by simp [text]; rfl)

/-! ### Checks -/

section

variable [Platform]

theorem run_of_unstarted (timeout : Option Binary64) {rest : List Text}
    (unstarted : Unstarted host word rest behaviour fault) :
    (run host behaviour timeout (word :: rest)).result = .error fault := by
  cases unstarted with
  | notFound _ lost => simp only [run, lost]
  | missing found fit =>
    simp only [run, found, finish_of_fit fit, Behaviour.outcome, List.headD_cons]
  | refused error found fit =>
    simp only [run, found, finish_of_fit fit, Behaviour.outcome, List.headD_cons]

theorem checkIn_of_unstarted {place : List Text}
    (unstarted : Unstarted (host.withDirectory place) request.executable
      (request.invocation place).command.tail behaviour fault) :
    (checkIn place host behaviour request).result =
      .error (notRun (request.invocation place).command fault) := by
  have same : (request.invocation place).command =
    request.executable :: (request.invocation place).command.tail := rfl
  have ran := run_of_unstarted request.timeout unstarted
  rw [← same] at ran
  simp only [checkIn, CheckRun.ofRun, ran]

/-- What is told of an executable that is not there has no blanks at the ends. -/
theorem notRun_of_not_refused {command rest : List Text}
    (unstarted : Unstarted host word rest behaviour fault)
    (absent : ¬ ∃ error path, fault = .refused error path) :
    notRun command fault = .failed ⟨command, 127, fault.message⟩ := by
  cases unstarted with
  | notFound _ _ =>
    simp only [notRun, Failure.of, (tight_notFound word).trim_eq]
    rfl
  | @missing executable _ _ =>
    simp only [notRun, Failure.of, (tight_missing executable).trim_eq]
    rfl
  | refused _ _ _ => exact absurd ⟨_, _, rfl⟩ absent

end

end Server

namespace CommandLine

open Server (Host Behaviour Request RunFault Failure Unstarted)

section

variable [Platform]

theorem tells_of_failed (session : Session) {environment : Environment} {behaviour : Behaviour}
    {settings : Settings} {failure : Failure}
    (failed : (Server.check (session.host environment) behaviour settings.request).result =
      .error (.failed failure)) :
    Tells session.painter failure (session.verbose = false)
      (runWith session environment behaviour settings).1 := by
  have concluded : conclude session.painter session.site.cwd settings.workspace
      (Server.check (session.host environment) behaviour settings.request).result =
        (.status 255, [], [], some failure.notice) := by
    rw [failed]
    rfl
  obtain ⟨ending, stdout, stderr⟩ := runWith_of_conclude concluded
  refine ⟨ending, stdout, ?_, stderr⟩
  simp only [runWith, Session.check, concluded, tellAny_fst]
  exact List.suffix_append _ _

theorem ending_of_notRun (session : Session) {environment : Environment} {behaviour : Behaviour}
    {settings : Settings} {fault : RunFault}
    (crashed : (Server.check (session.host environment) behaviour settings.request).result =
      .error (.notRun fault)) :
    (runWith session environment behaviour settings).1.ending = .crash (.notRun fault) := by
  have concluded : conclude session.painter session.site.cwd settings.workspace
      (Server.check (session.host environment) behaviour settings.request).result =
        (.crash (.notRun fault), [], [], none) := by
    rw [crashed]
    rfl
  exact (runWith_of_conclude concluded).1

/-- A server that cannot be started makes the check fail, and the run tell of it, just if it is not
that the system refuses to start what is there. -/
theorem unstarted_tells_iff {host : Host} {behaviour : Behaviour} {request : Request}
    {fault : RunFault} (unstarted : Unstarted (host.withDirectory host.nextOutput)
      request.executable (request.invocation host.nextOutput).command.tail behaviour fault) :
    let failure : Failure := ⟨(request.invocation host.nextOutput).command, 127, fault.message⟩
    ((Server.check host behaviour request).result = .error (.failed failure) ↔
        ¬ ∃ error path, fault = .refused error path) ∧
      ∀ (session : Session) (environment : Environment) (stream : Stream) (words : List Text)
        (options : Options) (settings : Settings) (painter : Painter),
        Usable session environment stream words options settings painter →
        session.host environment = host → settings.request = request →
        (Tells painter failure (session.verbose = false ∧ options.verbose = false)
          (run session environment stream behaviour words).1 ↔
            ¬ ∃ error path, fault = .refused error path) := by
  intro failure
  have answered : (Server.check host behaviour request).result = _ :=
    Server.checkIn_of_unstarted unstarted
  by_cases refused : ∃ error path, fault = .refused error path
  · obtain ⟨error, path, rfl⟩ := id refused
    refine ⟨iff_of_false ?_ (not_not_intro refused), ?_⟩
    · intro failed
      cases answered.symm.trans failed
    · intro session environment stream words options settings painter usable at_host asked
      refine iff_of_false ?_ (not_not_intro refused)
      intro tells
      subst at_host asked
      let installed : Session := (session.withLog options.verbose).install painter
      have ending := tells.ending
      rw [run_of_usable usable, ending_of_notRun installed answered] at ending
      cases ending
  · rw [Server.notRun_of_not_refused unstarted refused] at answered
    refine ⟨iff_of_true answered refused, ?_⟩
    intro session environment stream words options settings painter usable at_host asked
    refine iff_of_true ?_ refused
    subst at_host asked
    let installed : Session := (session.withLog options.verbose).install painter
    rw [run_of_usable usable, ← Bool.or_eq_false_iff]
    exact tells_of_failed installed answered

end

attribute [local instance] Platform.loose

/-- A server that is on the search path, and is not there any more as it is started. -/
theorem unstarted_tells_iff_missing :
    let session : Session := { site := ⟨⟨[([text "work"], .directory), ([text "bin"], .directory),
      ([text "bin", text "server"], .file true [])]⟩, text "/"⟩ }
    let environment : Environment := [(text "PATH", text "/bin")]
    let words := [text "--executable=server", text "-v", text "work"]
    let options : Options :=
      { workspace := ⟨.none, [text "work"]⟩, executable := text "server", verbose := true }
    let settings : Settings :=
      { workspace := ⟨.none, [text "work"]⟩, executable := text "server" }
    let host := session.host environment
    let fault : RunFault := .missing (text "/bin/server")
    let failure : Failure :=
      ⟨(settings.request.invocation host.nextOutput).command, 127, fault.message⟩
    let result := (run session environment .terminal .missing words).1
    Unstarted (host.withDirectory host.nextOutput) settings.request.executable
        (settings.request.invocation host.nextOutput).command.tail .missing fault ∧
      Usable session environment .terminal words options settings ⟨true⟩ ∧
      (Server.check host .missing settings.request).result = .error (.failed failure) ∧
      Tells ⟨true⟩ failure (session.verbose = false ∧ options.verbose = false) result := by
  intro session environment words options settings host fault failure result
  have unstarted : Unstarted (host.withDirectory host.nextOutput) settings.request.executable
      (settings.request.invocation host.nextOutput).command.tail .missing fault :=
    .missing (by decide +kernel) (Server.unfit?_eq_none_iff.mp (by decide +kernel))
  have usable : Usable session environment .terminal words options settings ⟨true⟩ :=
    ⟨by decide +kernel, rfl, rfl⟩
  have other : ¬ ∃ error path, fault = .refused error path := by simp [fault]
  obtain ⟨failed, tells⟩ := unstarted_tells_iff unstarted
  exact ⟨unstarted, usable, failed.mpr other,
    (tells session environment .terminal words options settings ⟨true⟩ usable rfl rfl).mpr other⟩

/-- A server that may not be run ends the check without a failure, and the run without a status. -/
theorem unstarted_denied_crashes :
    let session : Session := { site := ⟨⟨[([text "work"], .directory)]⟩, text "/"⟩ }
    let words := [text "--executable=/opt/server", text "work"]
    let settings : Settings :=
      { workspace := ⟨.none, [text "work"]⟩, executable := text "/opt/server" }
    let host := session.host []
    let fault : RunFault := .refused .denied (text "/opt/server")
    let result := (run session [] .file .denied words).1
    Unstarted (host.withDirectory host.nextOutput) settings.request.executable
        (settings.request.invocation host.nextOutput).command.tail .denied fault ∧
      (∀ failure, (Server.check host .denied settings.request).result ≠ .error (.failed failure)) ∧
      result.ending = .crash (.notRun fault) ∧ result.stderr = [] := by
  intro session words settings host fault result
  have unstarted : Unstarted (host.withDirectory host.nextOutput) settings.request.executable
      (settings.request.invocation host.nextOutput).command.tail .denied fault :=
    .refused .denied (by decide +kernel) (Server.unfit?_eq_none_iff.mp (by decide +kernel))
  refine ⟨unstarted, ?_, ?_⟩
  · intro failure failed
    cases (Server.checkIn_of_unstarted unstarted).symm.trans failed
  · constructor <;> decide +kernel

end CommandLine

end CheckReport
