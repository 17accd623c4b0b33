import Mathlib.Data.List.Forall2
import CheckReport.Proofs.Settings.Values

/-!
# Readings of settings

A reading takes just the settings that are valid, and tells of all others, if no path stops it
(`ofValues_checked_iff`).
-/

namespace CheckReport

open Json (Value)
open Terminal (ColorMode Environment Stream)

namespace Settings

variable {site : Site} {values : List (Text × Value)} {name : Name}

/-! ### Single settings -/

/-- The validation of a setting takes what the setting can be, and has one fault otherwise. -/
structure Judges {α : Type} (name : Name) (Is : α → Prop) (x : Validation Fault α) : Prop where
  ok : ∀ a, x = .ok a ↔ Is a
  error : ∀ faults, x = .error faults → ∃ problem, faults = [⟨name.toText, problem⟩]

theorem judges_named {α : Type} {Is : α → Prop} {x : Except Problem α}
    (each : ∀ a, x = .ok a ↔ Is a) : Judges name Is (named name.toText x) := by
  constructor
  · intro a
    rw [named, Validation.mapError_eq_ok, each]
  · intro faults faulty
    cases x with
    | ok a => cases faulty
    | error problem =>
      cases faulty
      exact ⟨problem, rfl⟩

theorem Judges.map {α β : Type} {Is : α → Prop} {x : Validation Fault α} (judged : Judges name Is x)
    (f : α → β) : Judges name (fun b => ∃ a, Is a ∧ f a = b) (x.map f) := by
  constructor
  · intro b
    simp only [Validation.map_eq_ok, judged.ok]
  · intro faults faulty
    cases x with
    | ok a => cases faulty
    | error all =>
      cases faulty
      exact judged.error _ rfl

theorem judges_ok {α : Type} {Is : α → Prop} {fallback : α} (only : ∀ a, Is a ↔ a = fallback) :
    Judges name Is (.ok fallback) :=
  ⟨fun a => by simp [only, eq_comm], nofun⟩

section

variable {α : Type} {fallback : α} {Reads : Value → α → Prop}

theorem means_iff_of_absent (absent : Value.member? name.toText values = none) (a : α) :
    Means name fallback Reads values a ↔ a = fallback := by
  constructor
  · rintro (⟨given, _⟩ | _)
    · cases absent.symm.trans given
    · rfl
  · rintro rfl
    exact .absent absent

theorem means_iff_of_given {v : Value} (given : Value.member? name.toText values = some v) (a : α) :
    Means name fallback Reads values a ↔ Reads v a := by
  constructor
  · rintro (⟨given', reads⟩ | absent)
    · cases given.symm.trans given'
      exact reads
    · cases given.symm.trans absent
  · exact .given given

theorem judges_given {read : Value → Except Problem α} (each : ∀ {v a}, read v = .ok a ↔ Reads v a) :
    Judges name (Means name fallback Reads values) (given name.toText fallback read values) := by
  unfold given
  split
  · next absent => exact judges_ok (means_iff_of_absent absent)
  · next v given =>
    exact judges_named fun a => each.trans (means_iff_of_given given a).symm

end

/-- A path that is given for a setting stops the reading. -/
def GivenStops (site : Site) (values : List (Text × Value)) (name : Name) : Prop :=
  ∃ v, Value.member? name.toText values = some v ∧ StoppedBy site v

theorem givenStops_iff_of_given {v : Value} (given : Value.member? name.toText values = some v) :
    GivenStops site values name ↔ StoppedBy site v := by
  simp [GivenStops, given]

theorem not_givenStops_of_absent (absent : Value.member? name.toText values = none) :
    ¬ GivenStops site values name := by
  simp [GivenStops, absent]

theorem workspaceOf_settles (site : Site) (values : List (Text × Value)) :
    Settles (GivenStops site values .workspace)
      (Judges .workspace (Means .workspace (Path.ofText Path.dot) (IsPath site) values))
      (workspaceOf site values) := by
  unfold workspaceOf
  cases given : Value.member? Name.workspace.toText values with
  | none =>
    have absent : Value.member? workspaceName values = none := given
    rw [absent]
    exact .gives (not_givenStops_of_absent given) (judges_ok (means_iff_of_absent given))
  | some v =>
    have there : Value.member? workspaceName values = some v := given
    rw [there, givenStops_iff_of_given given]
    exact (existingOf_settles site v).map fun x each =>
      judges_named fun path => (each path).trans (means_iff_of_given given path).symm

/-! ### The configuration file -/

theorem defaultConfigPath_of_rooted (rooted : Path.isAbsoluteText site.cwd = true) :
    defaultConfigPath site (Path.ofText site.cwd) =
      (site.isFile site.defaultConfig.toText).map fun found =>
        if found then some site.defaultConfig else none := by
  have absolute : site.defaultConfig.isAbsolute = true := by
    rw [← Path.isAbsolute_ofText] at rooted
    exact rooted
  have same : (Path.ofText site.cwd).join site.defaultConfig = site.defaultConfig :=
    if_pos absolute
  show (site.isFile site.defaultConfig.toText).map (fun found =>
    if found then some ((Path.ofText site.cwd).join site.defaultConfig) else none) = _
  rw [same]

theorem isFile_settles (site : Site) (path : Text) :
    Settles (∃ fault, site.at? path = .error fault) (fun found => found = true ↔ site.HasFile path)
      (site.isFile path) := by
  rw [← Server.isWritten_iff, Server.isWritten, Site.isFile]
  cases site.at? path with
  | error fault => exact .stops ⟨fault, rfl⟩
  | ok found => exact .gives (by simp) .rfl

theorem unnamed_or_given (values : List (Text × Value)) : Unnamed values ∨
    ∃ v, Value.member? Name.configPath.toText values = some v ∧ v ≠ .null := by
  unfold Unnamed
  cases Value.member? Name.configPath.toText values with
  | none => exact .inl (.inl rfl)
  | some v => cases v <;> simp

theorem getD_of_unnamed (unnamed : Unnamed values) :
    (Value.member? configPathName values).getD .null = .null := by
  obtain absent | null := unnamed
  · exact congrArg (Option.getD · .null) absent
  · exact congrArg (Option.getD · .null) null

theorem meansConfigPath_iff_of_unnamed (unnamed : Unnamed values) (found : Option Path) :
    MeansConfigPath site values found ↔
      site.HasFile site.defaultConfig.toText ∧ found = some site.defaultConfig ∨
        ¬ site.HasFile site.defaultConfig.toText ∧ found = none := by
  constructor
  · rintro (⟨given, ⟨_⟩⟩ | ⟨_, there⟩ | ⟨_, absent⟩)
    · obtain absent | null := unnamed
      · cases given.symm.trans absent
      · cases given.symm.trans null
    · exact .inl ⟨there, rfl⟩
    · exact .inr ⟨absent, rfl⟩
  · rintro (⟨there, rfl⟩ | ⟨absent, rfl⟩)
    · exact .found unnamed there
    · exact .missing unnamed absent

section

variable {v : Value} (given : Value.member? Name.configPath.toText values = some v)
  (named : v ≠ .null)

include given named

theorem not_unnamed_of_given : ¬ Unnamed values := by
  rintro (absent | null)
  · cases given.symm.trans absent
  · cases given.symm.trans null
    exact named rfl

theorem meansConfigPath_iff_of_given (found : Option Path) :
    MeansConfigPath site values found ↔ ∃ path, IsPath site v path ∧ some path = found := by
  have other : ¬ Unnamed values := not_unnamed_of_given given named
  constructor
  · rintro (⟨given', reads⟩ | ⟨unnamed, _⟩ | ⟨unnamed, _⟩)
    · cases given.symm.trans given'
      exact ⟨_, reads, rfl⟩
    · exact absurd unnamed other
    · exact absurd unnamed other
  · rintro ⟨path, reads, rfl⟩
    exact .named given reads

theorem fallbackOf_of_given : fallbackOf site values = .ok none := by
  have read : (Value.member? configPathName values).getD .null = v :=
    congrArg (Option.getD · Value.null) given
  unfold fallbackOf
  rw [read]
  cases v <;> first | rfl | exact absurd rfl named

theorem configPathOf_of_given (fallback : Option Path) : configPathOf site fallback values =
    (existingOf site v).map fun x => (Settings.named Name.configPath.toText x).map some := by
  have read : (Value.member? configPathName values).getD .null = v :=
    congrArg (Option.getD · Value.null) given
  unfold configPathOf
  rw [read]
  cases v <;> first | rfl | exact absurd rfl named

end

/-- The default file is looked for only where none is named, and then counts as it is found. -/
theorem fallbackOf_settles (rooted : Path.isAbsoluteText site.cwd = true)
    (values : List (Text × Value)) :
    Settles (Unnamed values ∧ ∃ fault, site.at? site.defaultConfig.toText = .error fault)
      (fun fallback => Unnamed values → ∀ found, MeansConfigPath site values found ↔ found = fallback)
      (fallbackOf site values) := by
  obtain unnamed | ⟨v, given, named⟩ := unnamed_or_given values
  · simp only [unnamed, true_and, true_imp_iff, meansConfigPath_iff_of_unnamed unnamed]
    unfold fallbackOf
    rw [getD_of_unnamed unnamed]
    show Settles _ _ (defaultConfigPath site (Path.ofText site.cwd))
    rw [defaultConfigPath_of_rooted rooted]
    refine (isFile_settles site _).map fun there file found => ?_
    rw [← file]
    cases there <;> simp
  · have other : ¬ Unnamed values := not_unnamed_of_given given named
    rw [fallbackOf_of_given given named]
    exact .gives (fun stops => other stops.1) fun unnamed => absurd unnamed other

theorem configPathOf_settles {fallback : Option Path}
    (counts : Unnamed values → ∀ found, MeansConfigPath site values found ↔ found = fallback) :
    Settles (GivenStops site values .configPath)
      (Judges .configPath (MeansConfigPath site values)) (configPathOf site fallback values) := by
  obtain unnamed | ⟨v, given, named⟩ := unnamed_or_given values
  · unfold configPathOf
    rw [getD_of_unnamed unnamed]
    refine .gives ?_ (judges_ok (counts unnamed))
    rintro ⟨v, given, s, rfl, _⟩
    exact not_unnamed_of_given given nofun unnamed
  · rw [configPathOf_of_given given named, givenStops_iff_of_given given]
    have same : MeansConfigPath site values =
        fun found => ∃ path, IsPath site v path ∧ some path = found :=
      funext fun found => propext (meansConfigPath_iff_of_given given named found)
    rw [same]
    exact (existingOf_settles site v).map fun x each => (judges_named each).map some

/-! ### Faults -/

theorem Name.mem_all (name : Name) : name ∈ Name.all := by
  cases name <;> simp [Name.all]

/-- Faults are one for each setting among some that is not valid, in their order. -/
def Reports (Valid : Name → Prop) (names : List Name) (faults : List Fault) : Prop :=
  ∃ invalid : List Name, invalid.Sublist names ∧ (∀ name ∈ names, name ∈ invalid ↔ ¬ Valid name) ∧
    List.Forall₂ (fun name fault => ∃ problem, fault = ⟨name.toText, problem⟩) invalid faults

section

variable {Valid : Name → Prop}

theorem Reports.append {names others : List Name} {faults more : List Fault}
    (first : Reports Valid names faults) (later : Reports Valid others more) :
    Reports Valid (names ++ others) (faults ++ more) := by
  obtain ⟨bad, sub, each, paired⟩ := first
  obtain ⟨worse, sub', each', paired'⟩ := later
  refine ⟨bad ++ worse, sub.append sub', fun name mem => ?_, List.rel_append paired paired'⟩
  -- a name that is found in either list is not valid, so the two need not be apart
  have invalid : name ∈ bad ++ worse → ¬ Valid name := fun found =>
    (List.mem_append.mp found).elim (fun found => (each name (sub.subset found)).mp found)
      fun found => (each' name (sub'.subset found)).mp found
  refine ⟨invalid, fun wrong => List.mem_append.mpr ?_⟩
  exact (List.mem_append.mp mem).imp (fun mem => (each name mem).mpr wrong)
    fun mem => (each' name mem).mpr wrong

theorem Judges.reports {α : Type} {Is : α → Prop} {x : Validation Fault α}
    (judged : Judges name Is x) (valid : Valid name ↔ ∃ a, Is a) :
    Reports Valid [name] x.faults := by
  cases x with
  | ok a =>
    have is : Valid name := valid.mpr ⟨a, (judged.ok a).mp rfl⟩
    exact ⟨[], List.nil_sublist _, by simp [is], .nil⟩
  | error faults =>
    obtain ⟨problem, rfl⟩ := judged.error faults rfl
    have wrong : ¬ Valid name := by
      rw [valid]
      rintro ⟨a, is⟩
      cases (judged.ok a).mpr is
    exact ⟨[name], .refl _, by simp [wrong], .cons ⟨problem, rfl⟩ .nil⟩

end

/-! ### All settings together -/

theorem forall_name_iff {P : Name → Prop} : (∀ name, P name) ↔ P .workspace ∧ P .level ∧
    P .configPath ∧ P .color ∧ P .executable ∧ P .timeout := by
  constructor
  · exact fun all => ⟨all _, all _, all _, all _, all _, all _⟩
  · rintro ⟨workspace, level, configPath, color, executable, timeout⟩ (_ | _ | _ | _ | _ | _) <;>
      assumption

/-- A setting is valid if it can be something that agrees with the values. -/
theorem valid_iff {α : Type} {Is : α → Prop} {get : Settings → α}
    (agrees : ∀ settings, Agrees site values settings name ↔ Is (get settings))
    (onto : Function.Surjective get) : Valid site values name ↔ ∃ a, Is a :=
  (exists_congr agrees).trans onto.exists.symm

section

variable {workspace : Validation Fault Path} {configPath : Validation Fault (Option Path)}
  (first : Judges .workspace (Means .workspace (Path.ofText Path.dot) (IsPath site) values) workspace)
  (third : Judges .configPath (MeansConfigPath site values) configPath)

include first third

/-- Together the validations take the settings that agree with the values, and have a fault for each
setting that is not valid. -/
theorem collect_judges :
    (∀ settings, collect workspace configPath values = .ok settings ↔
        ∀ name, Agrees site values settings name) ∧
      Reports (Valid site values) Name.all (collect workspace configPath values).faults := by
  have level : Judges .level (Means .level .warning (IsWord Severity.label) values)
    (given levelName .warning levelOf values) := judges_given levelOf_eq_ok
  have color : Judges .color (Means .color .auto (IsWord ColorMode.name) values)
    (given colorName .auto colorModeOf values) := judges_given colorModeOf_eq_ok
  have executable : Judges .executable
    (Means .executable Server.defaultExecutable IsExecutable values)
    (given executableName Server.defaultExecutable executableOf values) :=
    judges_given executableOf_eq_ok
  have timeout : Judges .timeout (Means .timeout none IsTimeout values)
    (given timeoutName none timeoutOf values) := judges_given timeoutOf_eq_ok
  constructor
  · intro settings
    rw [forall_name_iff, collect, Validation.map_eq_ok]
    constructor
    · rintro ⟨⟨a, b, c, d, e, f⟩, taken, rfl⟩
      simp only [Validation.both_eq_ok] at taken
      obtain ⟨ha, hb, hc, hd, he, hf⟩ := taken
      exact ⟨(first.ok a).mp ha, (level.ok b).mp hb, (third.ok c).mp hc, (color.ok d).mp hd,
        (executable.ok e).mp he, (timeout.ok f).mp hf⟩
    · rintro ⟨ha, hb, hc, hd, he, hf⟩
      refine ⟨(_, _, _, _, _, _), ?_, rfl⟩
      simp only [Validation.both_eq_ok]
      exact ⟨(first.ok _).mpr ha, (level.ok _).mpr hb, (third.ok _).mpr hc, (color.ok _).mpr hd,
        (executable.ok _).mpr he, (timeout.ok _).mpr hf⟩
  · simp only [collect, Validation.faults_map, Validation.faults_both]
    exact (first.reports (valid_iff (fun _ => .rfl) fun a => ⟨{ workspace := a }, rfl⟩)).append <|
      (level.reports (valid_iff (fun _ => .rfl) fun a => ⟨{ level := a }, rfl⟩)).append <|
      (third.reports (valid_iff (fun _ => .rfl) fun a => ⟨{ configPath := a }, rfl⟩)).append <|
      (color.reports (valid_iff (fun _ => .rfl) fun a => ⟨{ color := a }, rfl⟩)).append <|
      (executable.reports (valid_iff (fun _ => .rfl) fun a => ⟨{ executable := a }, rfl⟩)).append <|
      timeout.reports (valid_iff (fun _ => .rfl) fun a => ⟨{ timeout := a }, rfl⟩)

end

/-- What a message of faults tells is what they report. -/
theorem tells_of_reports {faults : List Fault}
    (reports : Reports (Valid site values) Name.all faults) :
    Tells site values (Refusal.faults faults).message := by
  obtain ⟨invalid, sub, each, paired⟩ := reports
  refine ⟨invalid, faults.map Fault.message, sub, fun name => each name (Name.mem_all name), ?_, rfl⟩
  refine List.forall₂_map_right_iff.mpr (paired.imp ?_)
  rintro name _ ⟨problem, rfl⟩
  exact ⟨problem, rfl⟩

/-! ### What is there -/

theorem has_dot (site : Site) : site.Has (Path.ofText Path.dot) :=
  ⟨.directory, rfl⟩

theorem has_of_isPath {v : Value} {path : Path} (isPath : IsPath site v path) : site.Has path := by
  cases isPath with
  | there there => exact there

theorem there_of_agrees {settings : Settings} (agrees : ∀ name, Agrees site values settings name) :
    site.Has settings.workspace ∧ ∀ path ∈ settings.configPath, site.Has path := by
  obtain ⟨workspace, level, configPath, color, executable, timeout⟩ := settings
  constructor
  · obtain ⟨-, isPath⟩ | - := agrees .workspace
    · exact has_of_isPath isPath
    · exact has_dot site
  · intro path mem
    obtain ⟨-, isPath⟩ | ⟨-, there⟩ | - := agrees .configPath
    · cases mem
      exact has_of_isPath isPath
    · cases mem
      obtain ⟨executable, content, there⟩ := there
      exact ⟨_, there⟩
    · cases mem

/-! ### Readings -/

theorem stopped_iff : Stopped site values ↔
    GivenStops site values .workspace ∨ GivenStops site values .configPath ∨
      Unnamed values ∧ ∃ fault, site.at? site.defaultConfig.toText = .error fault := by
  constructor
  · rintro (⟨given, stops⟩ | ⟨given, stops⟩ | ⟨unnamed, tooLong⟩)
    · exact .inl ⟨_, given, _, rfl, stops⟩
    · exact .inr (.inl ⟨_, given, _, rfl, stops⟩)
    · exact .inr (.inr ⟨unnamed, _, tooLong⟩)
  · rintro (⟨_, given, _, rfl, stops⟩ | ⟨_, given, _, rfl, stops⟩ | ⟨unnamed, _, tooLong⟩)
    · exact .workspace given stops
    · exact .configPath given stops
    · exact .fallback unnamed tooLong

/-- A path stops the reading, or all settings are validated. -/
theorem ofValues_cases (rooted : Path.isAbsoluteText site.cwd = true)
    (values : List (Text × Value)) :
    (Stopped site values ∧ ∃ cause, ofValues site values = .error (.interrupted cause)) ∨
      ¬ Stopped site values ∧ ∃ workspace configPath,
        Judges .workspace (Means .workspace (Path.ofText Path.dot) (IsPath site) values) workspace ∧
          Judges .configPath (MeansConfigPath site values) configPath ∧
          ofValues site values = (collect workspace configPath values).mapError .faults := by
  rw [stopped_iff]
  unfold ofValues
  -- three steps can stop the reading, the last of which goes by what the first has found
  have looked := fallbackOf_settles rooted values
  generalize fallbackOf site values = x at looked ⊢
  cases looked with
  | stops tooLong => exact .inl ⟨.inr (.inr tooLong), _, rfl⟩
  | gives short counts =>
    next fallback =>
    have first := workspaceOf_settles site values
    generalize workspaceOf site values = y at first ⊢
    cases first with
    | stops stops => exact .inl ⟨.inl stops, _, rfl⟩
    | gives goes judged =>
      next workspace =>
      have third := configPathOf_settles counts
      let finish (x : Except Interruption (Validation Fault (Option Path))) : Except Refusal Settings :=
        x.mapError .interrupted >>= fun configPath =>
          (collect workspace configPath values).mapError .faults
      cases read : configPathOf site fallback values with
      | error cause =>
        rw [read] at third
        cases third with
        | stops stops => exact .inl ⟨.inr (.inl stops), cause, congrArg finish read⟩
      | ok configPath =>
        rw [read] at third
        cases third with
        | gives goes' judged' =>
          exact .inr ⟨by simp [goes, goes', short], workspace, configPath, judged, judged',
            congrArg finish read⟩

theorem exists_agrees (valid : ∀ name, Valid site values name) :
    ∃ settings, ∀ name, Agrees site values settings name := by
  choose settings agrees using valid
  let each : Settings := ⟨(settings .workspace).workspace, (settings .level).level,
    (settings .configPath).configPath, (settings .color).color, (settings .executable).executable,
    (settings .timeout).timeout⟩
  exact ⟨each, forall_name_iff.mpr ⟨agrees .workspace, agrees .level, agrees .configPath,
    agrees .color, agrees .executable, agrees .timeout⟩⟩

theorem checked_of_judges {x : Validation Fault Settings}
    (agrees : ∀ settings, x = .ok settings ↔ ∀ name, Agrees site values settings name)
    (reports : Reports (Valid site values) Name.all x.faults) :
    Checked site values (x.mapError .faults) := by
  have taken (settings : Settings) : x.mapError Refusal.faults = .ok settings ↔
      ∀ name, Agrees site values settings name := by
    rw [Validation.mapError_eq_ok, agrees]
  refine ⟨⟨?_, ?_⟩, taken, fun settings read => there_of_agrees ((taken settings).mp read), ?_⟩
  · rintro ⟨settings, read⟩ name
    exact ⟨settings, (taken settings).mp read name⟩
  · intro valid
    obtain ⟨settings, agreed⟩ := exists_agrees valid
    exact ⟨settings, (taken settings).mpr agreed⟩
  · rintro ⟨name, invalid⟩
    cases x with
    | ok settings => exact absurd ⟨settings, (agrees settings).mp rfl name⟩ invalid
    | error faults => exact ⟨faults, rfl, tells_of_reports reports⟩

theorem not_checked_of_interrupted {result : Except Refusal Settings} {cause : Interruption}
    (interrupted : result = .error (.interrupted cause)) : ¬ Checked site values result := by
  subst interrupted
  intro checked
  by_cases valid : ∀ name, Valid site values name
  · obtain ⟨settings, read⟩ := checked.accepted.mpr valid
    cases read
  · obtain ⟨faults, told, -⟩ := checked.refused (not_forall.mp valid)
    cases told

/-- A reading that tells of faults is not stopped. -/
theorem not_stopped_of_faults (rooted : Path.isAbsoluteText site.cwd = true) {faults : List Fault}
    (told : ofValues site values = .error (.faults faults)) : ¬ Stopped site values := by
  obtain ⟨_, cause, interrupted⟩ | ⟨goes, _⟩ := ofValues_cases rooted values
  · cases told.symm.trans interrupted
  · exact goes

/-- A reading takes the valid settings and tells of all others, just if no path stops it; and a run
whose settings are refused starts nothing and leaves the painter as it is. -/
theorem ofValues_checked_iff [Platform] {site : Site} (rooted : Path.isAbsoluteText site.cwd = true)
    (values : List (Text × Value)) :
    (Checked site values (ofValues site values) ↔ ¬ Stopped site values) ∧
      ∀ (session : Session) (environment : Environment) (stream : Stream)
        (behaviour : Server.Behaviour) (words : List Text) (options : CommandLine.Options),
        CommandLine.Options.read? session.site environment words = some options →
        (∀ settings, ofValues session.site options.values ≠ .ok settings) →
        let (result, after) := CommandLine.run session environment stream behaviour words
        result.calls = [] ∧ after.painter = session.painter := by
  constructor
  · obtain ⟨stopped, cause, interrupted⟩ | ⟨goes, workspace, configPath, first, third, read⟩ :=
      ofValues_cases rooted values
    · exact iff_of_false (not_checked_of_interrupted interrupted) (not_not_intro stopped)
    · obtain ⟨agrees, reports⟩ := collect_judges first third
      rw [read]
      exact iff_of_true (checked_of_judges agrees reports) goes
  · intro session environment stream behaviour words options given refused
    obtain ⟨unread, _⟩ | ⟨_, _, _, _, ran⟩ | ⟨_, settings, _, read, valid, _⟩ |
        ⟨_, settings, _, ⟨read, valid, _⟩, _⟩ :=
      CommandLine.run_cases session environment stream behaviour words
    · cases given.symm.trans unread
    · rw [ran]
      exact ⟨rfl, rfl⟩
    · cases given.symm.trans read
      exact absurd valid (refused settings)
    · cases given.symm.trans read
      exact absurd valid (refused settings)

attribute [local instance] Platform.loose in
/-- A workspace that is not there, a level that there is not, null for the configuration file and no
number for the time, beside a run that is given no time at all. -/
theorem ofValues_checked_iff_faulty :
    let site : Site := ⟨⟨[([text "work"], .directory), ([text "work", text ".luarc.json"],
      .file false [])]⟩, text "/work"⟩
    let values := [(timeoutName, .float (.nan false)), (workspaceName, .str (text "missing")),
      (configPathName, .null), (levelName, .str (text "Fatal"))]
    let faults : List Fault := [⟨workspaceName, .absent ⟨.none, [text "missing"]⟩⟩,
      ⟨levelName, .notLevel⟩, ⟨timeoutName, .notPositive⟩]
    let session : Session := { site := site, painter := ⟨true⟩ }
    let words := [text "--timeout=0", text "--color=never"]
    let options : CommandLine.Options :=
      { timeout := some (.finite false 0 (-1074)), color := .never }
    let (result, after) := CommandLine.run session [] .terminal .missing words
    Path.isAbsoluteText site.cwd = true ∧ ofValues site values = .error (.faults faults) ∧
      Checked site values (.error (.faults faults)) ∧
      CommandLine.Options.read? site [] words = some options ∧
      (∀ settings, ofValues site options.values ≠ .ok settings) ∧
      result.calls = [] ∧ after.painter = ⟨true⟩ := by
  intro site values faults session words options
  have rooted : Path.isAbsoluteText site.cwd = true := by decide
  have told : ofValues site values = .error (.faults faults) := by rfl
  have given : CommandLine.Options.read? site [] words = some options := by decide +kernel
  have refused : ∀ settings, ofValues site options.values ≠ .ok settings := by
    have zero : ofValues site options.values =
      .error (.faults [⟨timeoutName, .notPositive⟩]) := by rfl
    simp [zero]
  obtain ⟨checks, runs⟩ := ofValues_checked_iff rooted values
  have checked := checks.mpr (not_stopped_of_faults rooted told)
  rw [told] at checked
  exact ⟨rooted, told, checked, given, refused,
    runs session [] .terminal .missing words options given refused⟩

/-- A workspace whose name is too long for a file, and one that cannot be written, stop the reading. -/
theorem ofValues_stopped :
    let site : Site := ⟨⟨[]⟩, text "/"⟩
    let long := [(workspaceName, Value.str (List.replicate 256 0x61))]
    let unpaired := [(workspaceName, Value.str [0xD800])]
    ofValues site long = .error (.interrupted (.tooLong ⟨List.replicate 256 0x61⟩)) ∧
      ¬ Checked site long (ofValues site long) ∧
      ofValues site unpaired = .error (.interrupted (.unwritable ⟨1, [0xD800]⟩)) ∧
      ¬ Checked site unpaired (ofValues site unpaired) := by
  intro site long unpaired
  have tooLong : ofValues site long = .error (.interrupted (.tooLong ⟨List.replicate 256 0x61⟩)) := by
    decide +kernel
  have unwritable : ofValues site unpaired = .error (.interrupted (.unwritable ⟨1, [0xD800]⟩)) := by
    rfl
  exact ⟨tooLong, not_checked_of_interrupted tooLong, unwritable,
    not_checked_of_interrupted unwritable⟩

end Settings

end CheckReport
