import CheckReport.Proofs.CommandLine.Gate

/-!
# What a run of a command line does

A run stops at the words, at the settings or at the painter, or is the run of a check (`run_cases`),
of which session and check make the result (`runWith_fst`).
-/

namespace CheckReport.CommandLine

open Server (Behaviour)
open Terminal (Environment Stream Painter Notice)

/-! ### Where a run stops -/

section

variable [Platform] {session : Session} {environment : Environment} {words : List Text}

theorem run_of_unread (unread : Options.read? session.site environment words = none)
    (stream : Stream) (behaviour : Behaviour) :
    run session environment stream behaviour words =
      ({ ending := .status usageStatus }, session) := by
  simp only [run, unread]

variable {options : Options} (read : Options.read? session.site environment words = some options)

include read

-- The settings are read in the session with the log on, whose files are those of the session before.
theorem run_of_refused {refusal : Settings.Refusal}
    (refused : Settings.ofValues session.site options.values = .error refusal) (stream : Stream)
    (behaviour : Behaviour) :
    run session environment stream behaviour words =
      ({ ending := endingOf refusal }, session.withLog options.verbose) := by
  have refused : Settings.ofValues (session.withLog options.verbose).site options.values =
    .error refusal := refused
  simp only [run, read, refused]

theorem run_of_broken {stream : Stream} {settings : Settings} {fault : Terminal.BrokenStream}
    (valid : Settings.ofValues session.site options.values = .ok settings)
    (broken : Painter.ofMode settings.color environment stream = .error fault)
    (behaviour : Behaviour) :
    run session environment stream behaviour words =
      ({ ending := .crash (.brokenStream fault) }, session.withLog options.verbose) := by
  have valid : Settings.ofValues (session.withLog options.verbose).site options.values =
    .ok settings := valid
  simp only [run, read, valid, broken]

end

variable [Platform] (session : Session) (environment : Environment) (stream : Stream)
  (behaviour : Behaviour) (words : List Text)

/-- All that a run can come to, with the session that it leaves. -/
theorem run_cases :
    (Options.read? session.site environment words = none ∧
      run session environment stream behaviour words =
        ({ ending := .status usageStatus }, session)) ∨
    (∃ options refusal, Options.read? session.site environment words = some options ∧
      Settings.ofValues session.site options.values = .error refusal ∧
      run session environment stream behaviour words =
        ({ ending := endingOf refusal }, session.withLog options.verbose)) ∨
    (∃ options settings fault, Options.read? session.site environment words = some options ∧
      Settings.ofValues session.site options.values = .ok settings ∧
      Painter.ofMode settings.color environment stream = .error fault ∧
      run session environment stream behaviour words =
        ({ ending := .crash (.brokenStream fault) }, session.withLog options.verbose)) ∨
    ∃ options settings painter,
      Usable session environment stream words options settings painter ∧
      run session environment stream behaviour words =
        runWith ((session.withLog options.verbose).install painter) environment behaviour
          settings := by
  cases read : Options.read? session.site environment words with
  | none => exact .inl ⟨rfl, run_of_unread read stream behaviour⟩
  | some options =>
    cases valid : Settings.ofValues session.site options.values with
    | error refusal =>
      have ran := run_of_refused read valid stream behaviour
      exact .inr (.inl ⟨options, refusal, rfl, valid, ran⟩)
    | ok settings =>
      cases painted : Painter.ofMode settings.color environment stream with
      | error fault =>
        have ran := run_of_broken read valid painted behaviour
        exact .inr (.inr (.inl ⟨options, settings, fault, rfl, valid, painted, ran⟩))
      | ok painter =>
        have usable : Usable session environment stream words options settings painter :=
          ⟨read, valid, painted⟩
        exact .inr (.inr (.inr ⟨options, settings, painter, usable,
          run_of_usable usable behaviour⟩))

/-! ### Runs of a check -/

variable (settings : Settings)

theorem runWith_fst :
    let check := Server.check (session.host environment) behaviour settings.request
    let (ending, output, log, notice) :=
      conclude session.painter session.site.cwd settings.workspace check.result
    (runWith session environment behaviour settings).1 =
      { ending := ending
        stdout := output
        stderr := session.logged (checkLog check.log ++ log) ++
          notice.elim [] (Notice.render session.painter)
        calls := check.calls } := by
  simp only [runWith, Session.check, tellAny_fst]
  rfl

/-- A check leaves the painter and the log as they are. -/
theorem runWith_snd :
    let after := (runWith session environment behaviour settings).2
    after.painter = session.painter ∧ after.verbose = session.verbose ∧
      after.outlets = session.outlets := by
  simp only [runWith, Session.check]
  generalize conclude session.painter session.site.cwd settings.workspace _ = concluded
  obtain ⟨ending, output, log, notice⟩ := concluded
  cases notice <;> exact ⟨rfl, rfl, rfl⟩

/-- With settings that stand, a run ends with a status of a check, or the check crashes it. -/
theorem ending_runWith {ending : Ending}
    (ended : (runWith session environment behaviour settings).1.ending = ending) :
    ending ≠ .status usageStatus ∧ (∀ cause, ending ≠ .crash (.interrupted cause)) ∧
      ∀ fault, ending ≠ .crash (.brokenStream fault) := by
  rw [runWith_fst] at ended
  subst ended
  have failure : failureStatus ≠ usageStatus := by decide
  have clean : cleanStatus ≠ usageStatus := by decide
  have problem : problemStatus ≠ usageStatus := by decide
  cases (Server.check (session.host environment) behaviour settings.request).result with
  | error fault => cases fault <;> simp [failure]
  | ok found =>
    cases found with
    | none => simp [clean]
    | some diagnosis =>
      simp only [reported]
      cases Report.ofDiagnosis session.site.cwd diagnosis with
      | error fault => simp
      | ok report =>
        simp only [reportStatus]
        split <;> simp [clean, problem]

end CheckReport.CommandLine
