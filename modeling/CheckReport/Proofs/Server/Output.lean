import Mathlib.Data.List.Find
import CheckReport.Proofs.FileTree
import CheckReport.Proofs.Server.Check
import CheckReport.Server.Series

/-!
# What checks leave in their output directories

With its output in a place that was made for it, a check comes to what the executable that is found
and the server it starts make of it (`run_of_lost`, `run_of_found`), and a server that writes where it
is told to changes nothing outside that place (`at?_delivered_of_outside`).
-/

namespace CheckReport.Server

open Terminal (Environment)

/-! ### Executables -/

theorem lookup_eq_find? (host : Host) (name : Text) :
    lookup host name = (host.candidates name).find? host.site.isExecutable := by
  unfold lookup Host.candidates
  split
  · rw [List.find?_singleton]
  · split
    · rfl
    · rfl

/-- Files that agree where an executable is looked for give the same one. -/
theorem resolve_congr {a b : Site} {environment : Environment} {word : Text} (cwd : a.cwd = b.cwd)
    (same : ∀ place, Host.GoesBy ⟨a, environment⟩ word place →
      a.tree.at? place = b.tree.at? place) :
    resolve ⟨a, environment⟩ word = resolve ⟨b, environment⟩ word := by
  unfold resolve
  cases absolute : (Path.ofText word).isAbsolute with
  | true => simp only [absolute, if_true]
  | false =>
    have candidates : Host.candidates ⟨a, environment⟩ word =
      Host.candidates ⟨b, environment⟩ word := rfl
    simp only [absolute, Bool.false_eq_true, if_false, lookup_eq_find?, ← candidates]
    refine List.find?_congr fun candidate mem => ?_
    have reads : a.at? candidate = b.at? candidate :=
      Site.at?_congr cwd fun place passed => same place ⟨absolute, candidate, mem, passed⟩
    simp only [Site.isExecutable, reads]

theorem slash_mem_toText {path : Path} (absolute : path.isAbsolute = true) :
    Text.slash ∈ path.toText := by
  obtain ⟨root, parts⟩ := path
  have rooted : root ≠ .none := by simpa [Path.isAbsolute] using absolute
  rw [Path.toText, if_neg fun empty => rooted empty.1]
  cases root with
  | none => exact absurd rfl rooted
  | single => exact List.mem_cons_self
  | double => exact List.mem_cons_self

theorem slash_not_mem_artifactOption : Text.slash ∉ artifactOption := by
  decide

theorem inDirectory_eq_artifactOption {directory name : Text}
    (same : inDirectory directory name = artifactOption) : name = artifactOption := by
  unfold inDirectory at same
  split at same
  · exact same
  · split at same
    · next ends =>
      refine absurd ?_ slash_not_mem_artifactOption
      rw [← same]
      exact List.mem_append_left _ (List.mem_of_getLast? ends)
    · refine absurd ?_ slash_not_mem_artifactOption
      rw [← same]
      exact List.mem_append_right _ List.mem_cons_self

/-- An executable is found under the name of the option only if the request names it so. -/
theorem resolve_eq_artifactOption {host : Host} {word : Text}
    (found : resolve host word = some artifactOption) : word = artifactOption := by
  unfold resolve at found
  cases absolute : (Path.ofText word).isAbsolute with
  | true =>
    simp only [absolute, if_true, Option.some.injEq] at found
    refine absurd ?_ slash_not_mem_artifactOption
    rw [← found]
    exact slash_mem_toText absolute
  | false =>
    simp only [absolute, Bool.false_eq_true, if_false, lookup_eq_find?] at found
    have mem := List.mem_of_find?_eq_some found
    unfold Host.candidates at mem
    split at mem
    · exact (List.mem_singleton.mp mem).symm
    · split at mem
      · cases mem
      · obtain ⟨directory, -, same⟩ := List.mem_map.mp mem
        exact inDirectory_eq_artifactOption same

/-! ### Commands -/

theorem valueOf?_cons_self (option : Text) (words : List Text) :
    valueOf? option (option :: words) = words.head? :=
  if_pos rfl

theorem valueOf?_cons_of_ne {option word : Text} (other : word ≠ option) (words : List Text) :
    valueOf? option (word :: words) = valueOf? option words :=
  if_neg other

theorem valueOf?_command (request : Request) (place : List Text) (executable : Text) :
    valueOf? artifactOption ((request.invocation place).argv executable) =
      if executable = artifactOption then some (text "--check")
      else if request.workspace.toText = artifactOption then some (text "--checklevel")
      else some (request.invocation place).artifactPath := by
  obtain ⟨rest, words⟩ : ∃ rest, (request.invocation place).command.tail =
      text "--check" :: request.workspace.toText :: text "--checklevel" :: request.level.label ::
        text "--check_format" :: text "json" :: artifactOption ::
          (request.invocation place).artifactPath :: rest := ⟨_, rfl⟩
  have level : request.level.label ≠ artifactOption := by
    cases request.level <;> decide
  rw [Invocation.argv, words]
  split
  · next named => rw [named, valueOf?_cons_self, List.head?_cons]
  · next named =>
    rw [valueOf?_cons_of_ne named, valueOf?_cons_of_ne (by decide)]
    split
    · next given => rw [given, valueOf?_cons_self, List.head?_cons]
    · next given =>
      rw [valueOf?_cons_of_ne given, valueOf?_cons_of_ne (by decide), valueOf?_cons_of_ne level,
        valueOf?_cons_of_ne (by decide), valueOf?_cons_of_ne (by decide), valueOf?_cons_self,
        List.head?_cons]

theorem Request.Clear.valueOf?_command {request : Request} (clear : request.Clear) {host : Host}
    {executable : Text} (found : resolve host request.executable = some executable)
    (place : List Text) :
    valueOf? artifactOption ((request.invocation place).argv executable) =
      some (request.invocation place).artifactPath := by
  have named : executable ≠ artifactOption := by
    rintro rfl
    exact clear.1 (resolve_eq_artifactOption found)
  rw [Server.valueOf?_command, if_neg named, if_neg clear.2]

/-! ### Places -/

theorem artifactPath_eq (request : Request) (place : List Text) :
    (request.invocation place).artifactPath =
      Path.toText ⟨.single, place ++ [artifactName]⟩ := by
  have name : Path.ofText artifactName = ⟨.none, [artifactName]⟩ := by decide
  rw [Invocation.artifactPath, name]
  rfl

theorem isName_artifactName : Site.IsName artifactName := by
  decide +kernel

/-- A word that is no artifact path leads to a place of its own name. -/
theorem place_of_word {word : Text} (plain : word = text "--check" ∨ word = text "--checklevel")
    (site : Site) : ∃ before, site.place word = before ++ [word] := by
  obtain rfl | rfl := plain <;> exact ⟨_, rfl⟩

variable {site : Site} {round : Round}

namespace Round.Made

theorem nonempty (made : round.Made site) : round.place ≠ [] := by
  intro root
  have absent := made.vacant [] (by simp [root])
  rw [FileTree.at?_nil] at absent
  cases absent

theorem artifact_names (made : round.Made site) :
    ∀ name ∈ round.place ++ [artifactName], Site.IsName name := by
  rw [List.forall_mem_append, List.forall_mem_singleton]
  exact ⟨made.names, isName_artifactName⟩

theorem artifact_short (made : round.Made site) :
    Site.size (Path.toText ⟨.single, round.place ++ [artifactName]⟩) < Site.pathLimit := by
  rw [← artifactPath_eq round.request]
  exact made.short

theorem place_artifactPath (made : round.Made site) (other : Site) :
    other.place round.invocation.artifactPath = round.place ++ [artifactName] := by
  rw [Round.invocation, artifactPath_eq]
  exact Site.place_toText made.artifact_names (List.concat_ne_nil _ _)

theorem at?_prepared (made : round.Made site) (other : List Text) :
    (round.prepared site).site.tree.at? other =
      if other = round.place then some .directory else site.tree.at? other :=
  FileTree.at?_put_of_parents made.nonempty made.parents

theorem at?_prepared_of_outside (made : round.Made site) {other : List Text}
    (outside : ¬ round.place <+: other) :
    (round.prepared site).site.tree.at? other = site.tree.at? other := by
  rw [made.at?_prepared, if_neg]
  rintro rfl
  exact outside (List.prefix_refl _)

theorem parents_of_artifact (made : round.Made site) (parent : List Text)
    (above : parent <+: round.place ++ [artifactName])
    (different : parent ≠ round.place ++ [artifactName]) :
    (round.prepared site).site.tree.at? parent = some .directory := by
  rw [made.at?_prepared]
  split
  · rfl
  · next other =>
    obtain same | above := List.prefix_concat_iff.mp above
    · exact absurd same different
    · exact made.parents parent above other

theorem vacant_artifact (made : round.Made site) :
    (round.prepared site).site.tree.at? (round.place ++ [artifactName]) = none := by
  rw [made.at?_prepared, if_neg (by simp)]
  exact made.vacant _ (List.prefix_append _ _)

end Round.Made

theorem eq_artifactPath_of_place {executable path : Text}
    (value : valueOf? artifactOption (round.invocation.argv executable) = some path)
    {other : Site} (there : other.place path = round.place ++ [artifactName]) :
    path = round.invocation.artifactPath := by
  rw [Round.invocation, valueOf?_command] at value
  have stray (word : Text) (plain : word = text "--check" ∨ word = text "--checklevel") :
      other.place word ≠ round.place ++ [artifactName] := by
    intro same
    obtain ⟨before, leads⟩ := place_of_word plain other
    rw [leads] at same
    obtain ⟨-, last⟩ := List.append_inj' same rfl
    obtain rfl := List.singleton_inj.mp last
    revert plain
    decide
  split at value
  · cases value
    exact absurd there (stray _ (.inl rfl))
  · split at value
    · cases value
      exact absurd there (stray _ (.inr rfl))
    · exact (Option.some.inj value).symm

theorem command_eq (round : Round) :
    round.invocation.command = round.invocation.argv round.request.executable :=
  rfl

/-! ### Products -/

section

variable [Platform] {executable : Text}

theorem product_of_productOf {behaviour : Behaviour} {argv : List Text} {product : Product}
    (left : behaviour.productOf argv = some product) : behaviour.product = some product := by
  unfold Behaviour.productOf at left
  split at left
  · cases left
  · exact left

/-- What a server leaves is put where the word after the option leads. -/
theorem delivered_cases (round : Round) (site : Site) (executable : Text) :
    (round.delivered site executable).tree = (round.prepared site).site.tree ∨
      ∃ path node, valueOf? artifactOption (round.invocation.argv executable) = some path ∧
        (round.delivered site executable).tree =
          (round.prepared site).site.tree.put (site.place path) node ∧
        ((∃ content, round.product executable = some (.file content) ∧
            node = .file false content) ∨
          round.product executable = some .directory ∧ node = .directory) := by
  unfold Round.delivered
  cases value : valueOf? artifactOption (round.invocation.argv executable) with
  | none =>
    left
    simp only [deliver, value]
    cases round.product executable with
    | none => rfl
    | some product => cases product <;> rfl
  | some path =>
    match round.product executable with
    | none => exact .inl (by simp only [deliver])
    | some (.file content) =>
      exact .inr ⟨path, .file false content, rfl, by simp only [deliver, value]; rfl,
        .inl ⟨content, rfl, rfl⟩⟩
    | some .directory =>
      exact .inr ⟨path, .directory, rfl, by simp only [deliver, value]; rfl, .inr ⟨rfl, rfl⟩⟩

theorem leaves?_eq_some {content : Text.Utf8.Bytes} :
    round.leaves? executable = some content ↔ round.product executable = some (.file content) ∧
      valueOf? artifactOption (round.invocation.argv executable) =
        some round.invocation.artifactPath := by
  unfold Round.leaves?
  constructor
  · intro left
    split at left
    · next product value =>
      split at left
      · next told =>
        cases left
        exact ⟨product, value.trans (congrArg some told)⟩
      · cases left
    · cases left
  · rintro ⟨product, value⟩
    simp only [product, value, if_true]

namespace Round.Made

/-- A file at the path of the artifact is the one that the server left. -/
theorem leaves?_of_at? (made : round.Made site) {mode : Bool} {content : Text.Utf8.Bytes}
    (leads : (round.delivered site executable).at? round.invocation.artifactPath =
      .ok (some (.file mode content))) : round.leaves? executable = some content := by
  rw [Round.invocation, artifactPath_eq] at leads
  have there := Site.at?_of_toText made.artifact_names (List.concat_ne_nil _ _)
    made.artifact_short leads
  have before := made.vacant_artifact
  obtain kept | ⟨path, node, value, put, left⟩ := delivered_cases round site executable
  · rw [kept, before] at there
    cases there
  · rw [put] at there
    by_cases same : round.place ++ [artifactName] = site.place path
    · obtain rfl := eq_artifactPath_of_place value same.symm
      have below : site.place round.invocation.artifactPath ≠ [] := by
        rw [← same]
        exact List.concat_ne_nil _ _
      rw [same] at there
      obtain rfl := Option.some.inj ((FileTree.at?_put_self below).symm.trans there)
      obtain ⟨content', product, file⟩ | ⟨-, directory⟩ := left
      · cases file
        exact leaves?_eq_some.mpr ⟨product, value⟩
      · cases directory
    -- A word that is not the path of the artifact leads to a place of another name.
    · obtain none | directory := FileTree.at?_put_of_vacant before same
      · cases none.symm.trans there
      · cases directory.symm.trans there

theorem at?_of_leaves? (made : round.Made site) {content : Text.Utf8.Bytes}
    (left : round.leaves? executable = some content) :
    (round.delivered site executable).at? round.invocation.artifactPath =
      .ok (some (.file false content)) := by
  obtain ⟨product, value⟩ := leaves?_eq_some.mp left
  have put : (round.delivered site executable).tree =
      (round.prepared site).site.tree.put (round.place ++ [artifactName])
        (.file false content) := by
    rw [← made.place_artifactPath (round.prepared site).site]
    simp only [Round.delivered, deliver, product, value]
  have below : round.place ++ [artifactName] ≠ [] := List.concat_ne_nil _ _
  rw [Round.invocation, artifactPath_eq]
  refine Site.at?_toText made.artifact_names below made.artifact_short ?_ ?_
  · intro parent above different
    rw [put, FileTree.at?_put_of_parents below made.parents_of_artifact, if_neg different]
    exact made.parents_of_artifact parent above different
  · rw [put, FileTree.at?_put_self below]

/-- A server that writes where it is told to changes the output directory only. -/
theorem at?_delivered_of_outside (made : round.Made site)
    (told : valueOf? artifactOption (round.invocation.argv executable) =
      some round.invocation.artifactPath)
    {other : List Text} (outside : ¬ round.place <+: other) :
    (round.delivered site executable).tree.at? other = site.tree.at? other := by
  rw [← made.at?_prepared_of_outside outside]
  obtain kept | ⟨path, node, value, put, -⟩ := delivered_cases round site executable
  · rw [kept]
  · obtain rfl := Option.some.inj (told.symm.trans value)
    rw [put, made.place_artifactPath, FileTree.at?_put_of_parents (List.concat_ne_nil _ _)
      made.parents_of_artifact, if_neg]
    rintro rfl
    exact outside (List.prefix_append _ _)

/-! ### Rounds -/

/-- The answer goes by the file that the server left, and without one by the status. -/
theorem answer_delivered (made : round.Made site) (finished : Finished) :
    answer round.invocation.command (round.delivered site executable) round.invocation.artifactPath
        (.of finished.status
          (isWritten (round.delivered site executable) round.invocation.artifactPath)) finished =
      round.concludes executable finished.status finished.stderr := by
  unfold Round.concludes
  cases left : round.leaves? executable with
  | some content =>
    have leads := made.at?_of_leaves? left
    rw [answer_of_hasFile ⟨false, content, leads⟩, Artifact.load, leads]
  | none =>
    refine answer_of_not_hasFile ?_ finished
    rintro ⟨mode, content, leads⟩
    cases left.symm.trans (made.leaves?_of_at? leads)

end Round.Made

theorem run_eq (round : Round) (site : Site) :
    round.run site = .ofRun round.invocation (round.prepared site).site
      (Server.run (round.prepared site) round.behaviour round.request.timeout
        round.invocation.command) :=
  rfl

theorem run_of_lost (lost : round.found site = none) :
    (round.run site).result = round.comesTo none ∧ (round.run site).calls = [] ∧
      round.leave site = (round.prepared site).site := by
  have ran : Server.run (round.prepared site) round.behaviour round.request.timeout
      round.invocation.command =
        ⟨.error (.notFound round.request.executable), [], (round.prepared site).site.tree⟩ := by
    unfold Round.found at lost
    rw [command_eq, Invocation.argv]
    simp only [Server.run, lost]
  simp only [Round.leave, run_eq, ran]
  exact ⟨rfl, rfl, rfl⟩

/-- Where an executable is found, a round comes to what its own server leaves. -/
theorem run_of_found (made : round.Made site) (found : round.found site = some executable) :
    (round.run site).result = round.comesTo (some executable) ∧
      (round.run site).calls = [⟨round.invocation.argv executable, round.request.timeout⟩] ∧
      round.leave site = round.delivered site executable := by
  have ran : Server.run (round.prepared site) round.behaviour round.request.timeout
      round.invocation.command =
        ⟨round.behaviour.finish (round.invocation.argv executable) round.request.timeout,
          [⟨round.invocation.argv executable, round.request.timeout⟩],
          (round.delivered site executable).tree⟩ := by
    unfold Round.found at found
    rw [command_eq, Invocation.argv]
    simp only [Server.run, found]
    rfl
  cases ended : round.behaviour.finish (round.invocation.argv executable) round.request.timeout with
  | error fault =>
    simp only [Round.leave, run_eq, ran, CheckRun.ofRun, Round.comesTo, ended]
    exact ⟨trivial, trivial, rfl⟩
  | ok finished =>
    simp only [Round.leave, run_eq, ran, CheckRun.ofRun, Round.comesTo, ended]
    exact ⟨made.answer_delivered finished, trivial, rfl⟩

end

end CheckReport.Server
