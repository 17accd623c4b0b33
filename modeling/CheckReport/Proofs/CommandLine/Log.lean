import CheckReport.CommandLine.Log
import CheckReport.Proofs.CommandLine.Run

/-!
# The log of a run

A command line without the words that ask for the log gives the same options but for the log
(`read?_withoutVerbose`), and no line of a log is written twice (`nodup_linesOf`).
-/

namespace CheckReport.CommandLine

open Server (Behaviour CheckRun)
open Terminal (Environment Stream Painter Notice)

/-! ### Words -/

namespace Words

theorem quiet_addFlags_of_verbose {flags : List Flag} (verbose : ∀ flag ∈ flags, flag = .verbose)
    (words : Words) : (words.addFlags flags).quiet = words.quiet := by
  have dropped : flags.filter (· ≠ .verbose) = [] := by
    rw [List.filter_eq_nil_iff]
    intro flag mem
    simp [verbose flag mem]
  simp only [quiet, addFlags, List.filter_append, dropped, List.nil_append]

theorem verbose_of_letters? {word : Text} {flags : List Flag} (letters : letters? word = some flags) :
    ∀ flag ∈ flags, flag = .verbose := by
  unfold letters? at letters
  split at letters
  · split at letters
    · cases letters
      simp
    · cases letters
  · cases letters

theorem read?_withoutVerbose (words : List Text) :
    read? (withoutVerbose words) = (read? words).map quiet := by
  fun_induction withoutVerbose words with
  | case1 => rfl
  | case2 rest => simp [read?, quiet]
  | case3 word rest more positional ih =>
    simp only [read?, more, positional, ih, Option.map_map, if_true, if_false]
    rfl
  | case4 word rest more option value given found ih =>
    simp only [value] at found
    cases setting : Setting.ofName? (word.takeWhile (· ≠ equals)) with
    | none =>
      simp only [read?, more, option, setting, found, if_false, Bool.false_eq_true, Option.map_none]
    | some setting =>
      simp only [read?, more, option, setting, found, ih, Option.map_map, if_false,
        Bool.false_eq_true]
      rfl
  | case5 word more option name value setting absent named =>
    simp only [value] at absent
    simp only [name] at named
    simp only [read?, more, option, named, absent, if_false, Bool.false_eq_true, Option.map_none]
  | case6 word more option name value setting absent named given rest ih =>
    simp only [value] at absent
    simp only [name] at named
    simp only [read?, more, option, named, absent, ih, Option.map_map, if_false, Bool.false_eq_true]
    rfl
  | case7 word rest more option name value absent unnamed flag ih =>
    simp only [value] at absent
    simp only [name] at unnamed flag
    simp only [read?, more, option, unnamed, absent, flag, ih, Option.map_map, if_false,
      Bool.false_eq_true]
    rfl
  | case8 word rest more option name value absent unnamed flag ih =>
    simp only [value] at absent
    simp only [name] at unnamed flag
    simp only [read?, more, option, unnamed, absent, flag, ih, Option.map_map, if_false,
      Bool.false_eq_true]
    rfl
  | case9 word rest more option name value absent unnamed flags letters flag ih =>
    simp only [value] at absent
    simp only [name] at unnamed flag
    simp only [read?, more, option, unnamed, absent, flag, letters, ih, Option.map_map, if_false,
      Bool.false_eq_true]
    congr 1
    funext words
    exact (quiet_addFlags_of_verbose (verbose_of_letters? letters) words).symm
  | case10 word rest more option name value absent unnamed letters flag ih =>
    simp only [value] at absent
    simp only [name] at unnamed flag
    simp only [read?, more, option, unnamed, absent, flag, letters, if_false, Bool.false_eq_true,
      Option.map_none]

-- The second `-v` is a value, and the third stands after the options.
example : withoutVerbose [text "-v", text "--color", text "-v", text "--", text "-v"] =
    [text "--color", text "-v", text "--", text "-v"] := by
  decide +kernel

end Words

namespace Options

section

variable [Platform]

theorem ofWords?_quiet (site : Site) (environment : Environment) (words : Words) :
    ofWords? site environment words.quiet = (ofWords? site environment words).map quiet := by
  have loud : words.quiet.flags.contains .verbose = false := by simp [Words.quiet]
  have plain : words.quiet.flags.contains .noColor = words.flags.contains .noColor := by
    simp [Words.quiet]
  have value (setting : Setting) : words.quiet.value? setting = words.value? setting := rfl
  have positional : words.quiet.positional = words.positional := rfl
  simp only [ofWords?, loud, plain, value, positional, Option.bind_eq_bind, Option.map_bind,
    Option.pure_def, Function.comp_def, Option.map_some]
  rfl

/-- Without the words that ask for the log, the options are the same but for the log. -/
theorem read?_withoutVerbose (site : Site) (environment : Environment) (words : List Text) :
    read? site environment (withoutVerbose words) =
      (read? site environment words).map quiet := by
  rw [read?, read?, Words.read?_withoutVerbose]
  cases Words.read? words with
  | none => rfl
  | some words => exact ofWords?_quiet site environment words

end

end Options

/-! ### Lines -/

theorem log_check [Platform] (host : Server.Host) (behaviour : Behaviour) (request : Server.Request) :
    ∃ command, (Server.check host behaviour request).log = [Server.runningLine command] ∨
      ∃ status outcome, (Server.check host behaviour request).log =
        [Server.runningLine command, Server.exitLine status outcome] := by
  refine ⟨(request.invocation host.nextOutput).command, ?_⟩
  unfold Server.check Server.checkIn CheckRun.ofRun
  dsimp only
  split
  · exact .inl rfl
  · exact .inr ⟨_, _, rfl⟩

theorem running_ne_exit (command : List Text) (status : Int) (outcome : Server.Outcome) :
    logLine checkOrigin (Server.runningLine command) ≠
      logLine checkOrigin (Server.exitLine status outcome) := by
  intro same
  have differ := congrArg (fun s : Text => s[18]?) same
  simp [logLine, checkOrigin, Server.runningLine, Server.exitLine, text] at differ

theorem check_ne_command (line other : Text) :
    logLine checkOrigin line ≠ logLine commandOrigin other := by
  intro same
  have differ := congrArg (fun s : Text => s[10]?) same
  simp [logLine, checkOrigin, commandOrigin, text] at differ

theorem nodup_linesOf [Platform] (host : Server.Host) (behaviour : Behaviour) (request : Server.Request)
    (workspace : Path) : (linesOf workspace (Server.check host behaviour request)).Nodup := by
  obtain ⟨command, log⟩ := log_check host behaviour request
  have checked : (checkLog (Server.check host behaviour request).log).Nodup := by
    obtain log | ⟨status, outcome, log⟩ := log
    · simp [log, checkLog]
    · simpa [log, checkLog] using running_ne_exit command status outcome
  rw [linesOf, List.nodup_append]
  refine ⟨checked, ?_, ?_⟩
  · split <;> simp
  · intro line mem other mem'
    obtain ⟨line, -, rfl⟩ := List.mem_map.mp mem
    split at mem'
    · rw [List.mem_singleton.mp mem']
      exact check_ne_command line _
    · cases mem'

theorem checkLog_append_conclude (painter : Painter) (cwd : Text) (workspace : Path)
    (check : CheckRun) :
    checkLog check.log ++ (conclude painter cwd workspace check.result).2.2.1 =
      linesOf workspace check := by
  rw [linesOf]
  match check.result with
  | .error (.failed failure) => rfl
  | .error (.malformed fault) => rfl
  | .error (.unreadable fault) => rfl
  | .error (.notRun fault) => rfl
  | .ok none => rfl
  | .ok (some diagnosis) => rfl

/-! ### Runs -/

theorem logged_nil (session : Session) : session.logged [] = [] := by
  unfold Session.logged
  split <;> rfl

section

variable [Platform] {session : Session} {environment : Environment} {stream : Stream}
  {behaviour : Behaviour} {words : List Text} {lines : List Text}

theorem exists_logs (session : Session) (environment : Environment) (stream : Stream)
    (behaviour : Behaviour) (words : List Text) :
    ∃ lines, Logs session environment stream behaviour words lines := by
  by_cases usable : ∃ options settings painter,
    Usable session environment stream words options settings painter
  · obtain ⟨options, settings, painter, usable⟩ := usable
    exact ⟨_, .check usable⟩
  · refine ⟨[], .unusable fun options settings painter stands => ?_⟩
    exact usable ⟨options, settings, painter, stands⟩

/-- What is logged depends on the files of a session, and on nothing else of it. -/
theorem Logs.of_site (logs : Logs session environment stream behaviour words lines)
    (other : Session) (same : other.site = session.site) :
    Logs other environment stream behaviour words lines := by
  have moved {options : Options} {settings : Settings} {painter : Painter} :
      Usable other environment stream words options settings painter ↔
        Usable session environment stream words options settings painter := by
    constructor
    · rintro ⟨read, valid, painted⟩
      exact ⟨same ▸ read, same ▸ valid, painted⟩
    · rintro ⟨read, valid, painted⟩
      exact ⟨same ▸ read, same ▸ valid, painted⟩
  have hosts : other.host environment = session.host environment := by
    simp only [Session.host, same]
  cases logs with
  | unusable stops =>
    refine .unusable fun options settings painter usable => ?_
    exact stops options settings painter (moved.mp usable)
  | check usable =>
    rw [← hosts]
    exact .check (moved.mpr usable)

theorem Logs.nodup (logs : Logs session environment stream behaviour words lines) : lines.Nodup := by
  cases logs with
  | unusable => exact List.nodup_nil
  | check => exact nodup_linesOf _ _ _ _

theorem Logs.eq_nil (logs : Logs session environment stream behaviour words lines)
    (stops : ∀ options settings painter,
      ¬ Usable session environment stream words options settings painter) : lines = [] := by
  cases logs with
  | unusable => rfl
  | check usable => exact absurd usable (stops _ _ _)

theorem Logs.eq_linesOf {options : Options} {settings : Settings} {painter : Painter}
    (logs : Logs session environment stream behaviour words lines)
    (usable : Usable session environment stream words options settings painter) :
    lines = linesOf settings.workspace
      (Server.check (session.host environment) behaviour settings.request) := by
  cases logs with
  | unusable stops => exact absurd usable (stops _ _ _)
  | check other =>
    obtain rfl := Option.some.inj (other.read.symm.trans usable.read)
    obtain rfl := Except.ok.inj (other.valid.symm.trans usable.valid)
    rfl

/-- A run is the run without a log on the same files, with the log in front of what is written to
standard error. -/
theorem run_fst_eq (logs : Logs session environment stream behaviour words lines) :
    let asked := (Options.read? session.site environment words).any (·.verbose)
    let fresh : Session := { site := session.site }
    let quiet := (run fresh environment stream behaviour (withoutVerbose words)).1
    (run session environment stream behaviour words).1 =
      { quiet with stderr := (session.withLog asked).logged lines ++ quiet.stderr } := by
  intro asked fresh quiet
  have without : Options.read? fresh.site environment (withoutVerbose words) =
    (Options.read? session.site environment words).map Options.quiet :=
    Options.read?_withoutVerbose session.site environment words
  obtain ⟨read, ran⟩ | ⟨options, refusal, read, refused, ran⟩ |
    ⟨options, settings, fault, read, valid, broken, ran⟩ | ⟨options, settings, painter, usable, ran⟩ :=
    run_cases session environment stream behaviour words
  · obtain rfl := logs.eq_nil fun _ _ _ usable => by cases read.symm.trans usable.read
    rw [read] at without
    have same := congrArg Prod.fst (run_of_unread without stream behaviour)
    rw [ran, logged_nil]
    exact same.symm
  · obtain rfl := logs.eq_nil fun _ _ _ usable => by
      obtain rfl := Option.some.inj (read.symm.trans usable.read)
      cases refused.symm.trans usable.valid
    rw [read] at without
    have same := congrArg Prod.fst (run_of_refused without refused stream behaviour)
    rw [ran, logged_nil]
    exact same.symm
  · obtain rfl := logs.eq_nil fun _ _ _ usable => by
      obtain rfl := Option.some.inj (read.symm.trans usable.read)
      obtain rfl := Except.ok.inj (valid.symm.trans usable.valid)
      cases broken.symm.trans usable.painted
    rw [read] at without
    have same := congrArg Prod.fst (run_of_broken without valid broken behaviour)
    rw [ran, logged_nil]
    exact same.symm
  · obtain rfl := logs.eq_linesOf usable
    rw [usable.read] at without
    have silent : Usable fresh environment stream (withoutVerbose words) options.quiet settings
      painter := ⟨without, usable.valid, usable.painted⟩
    have asks : asked = options.verbose := by simp only [asked, usable.read, Option.any_some]
    have silently : quiet = (runWith ((fresh.withLog options.quiet.verbose).install painter)
      environment behaviour settings).1 := congrArg Prod.fst (run_of_usable silent behaviour)
    rw [ran, silently, asks, runWith_fst, runWith_fst, ← checkLog_append_conclude painter
      session.site.cwd]
    have unlogged (lines : List Text) :
      ((fresh.withLog options.quiet.verbose).install painter).logged lines = [] := rfl
    rw [unlogged]
    rfl

end

end CheckReport.CommandLine
