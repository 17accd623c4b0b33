import CheckReport.Proofs.Diagnosis.Artifact
import CheckReport.Proofs.Server.Fresh

/-!
# Series of checks leave nothing stale

In a series each check has an artifact of its own, and comes to what it comes to alone
(`runs_independent`).
-/

namespace CheckReport.Server

open Validation (map_eq_ok mapError_eq_ok)

variable {site : Site} {round : Round} {before rounds : List Round}

/-! ### Another output directory -/

theorem artifactPath_ne_of_no_slash (word : Text) (plain : Text.slash ∉ word) (request : Request)
    (place : List Text) : word ≠ (request.invocation place).artifactPath := by
  rintro rfl
  rw [artifactPath_eq] at plain
  exact plain (slash_mem_toText rfl)

/-- Whether a server is told the path of the artifact does not depend on the path. -/
theorem told_iff {request : Request} {place : List Text} {executable : Text} :
    valueOf? artifactOption ((request.invocation place).argv executable) =
        some (request.invocation place).artifactPath ↔
      executable ≠ artifactOption ∧ request.workspace.toText ≠ artifactOption := by
  have check := artifactPath_ne_of_no_slash (text "--check") (by decide) request place
  have level := artifactPath_ne_of_no_slash (text "--checklevel") (by decide) request place
  rw [valueOf?_command]
  split
  · next named => exact iff_of_false (mt Option.some.inj check) fun clear => clear.1 named
  · next named =>
    split
    · next given => exact iff_of_false (mt Option.some.inj level) fun clear => clear.2 given
    · next given => exact iff_of_true rfl ⟨named, given⟩

/-- Words with the same faults can all be given to a program, or none can. -/
theorem unfit?_congr [Platform] {words others : List Text}
    (same : List.Forall₂ (fun a b => wordFault? a = wordFault? b) words others) :
    unfit? words = unfit? others := by
  have faults : words.findSome? wordFault? = others.findSome? wordFault? := by
    induction same with
    | nil => rfl
    | cons first _ ih => rw [List.findSome?_cons, List.findSome?_cons, first, ih]
  rw [unfit?, unfit?, faults]

theorem Round.Made.wordFault?_artifactPath (made : round.Made site) :
    wordFault? round.invocation.artifactPath = none := by
  rw [wordFault?_eq_none_iff, Round.invocation, artifactPath_eq]
  exact Site.isPossible_toText made.artifact_names

theorem Round.Made.wordFault?_outputDirectory (made : round.Made site) :
    wordFault? round.invocation.outputDirectory.toText = none :=
  wordFault?_eq_none_iff.mpr (Site.isPossible_toText made.names)

theorem found_elsewhere {here other : Site} {outputs : List (List Text)} {place : List Text}
    (made : round.Made here) (same : SameFiles outputs round here other)
    (elsewhere : (round.elsewhere place).Made other)
    (named : place = round.place ∨ ¬ round.GoesBy here round.place ∧ ¬ round.GoesBy here place) :
    round.found here = (round.elsewhere place).found other := by
  refine resolve_congr same.cwd fun seen passed => ?_
  have passed : round.GoesBy here seen := passed
  have agree : here.tree.at? seen = other.tree.at? seen := same.tree seen fun _ => passed
  have places : (round.elsewhere place).place = place := rfl
  have made' := made.at?_prepared seen
  have elsewhere' := elsewhere.at?_prepared seen
  refine made'.trans (Eq.trans ?_ elsewhere'.symm)
  rw [agree, places]
  obtain rfl | ⟨notOwn, notOther⟩ := named
  · rfl
  · have own : seen ≠ round.place := by
      rintro rfl
      exact notOwn passed
    have another : seen ≠ place := by
      rintro rfl
      exact notOther passed
    rw [if_neg own, if_neg another]

section

variable [Platform]

/-- What a process comes to depends on its program, not on the words after it, which are kept. -/
theorem outcome_cons (behaviour : Behaviour) (timeout : Option Binary64) (executable : Text)
    (rest others : List Text) :
    behaviour.outcome (executable :: others) timeout =
      (behaviour.outcome (executable :: rest) timeout).map
        ({ · with argv := executable :: others }) := by
  cases behaviour with
  | missing => rfl
  | refused error => rfl
  | exits product status stdout stderr =>
    simp only [Behaviour.outcome]
    cases wait timeout with
    | error fault => rfl
    | ok =>
      cases stdout.read with
      | error fault => rfl
      | ok printed => cases stderr.read <;> rfl
  | expires product stdout stderr =>
    simp only [Behaviour.outcome]
    cases wait timeout with
    | error fault => rfl
    | ok => cases timeout <;> rfl

section

variable {here other : Site} {place : List Text} (made : round.Made here)
  (elsewhere : (round.elsewhere place).Made other) (executable : Text)

include made elsewhere

/-- The places that are made have paths that a program can be given. -/
theorem unfit?_elsewhere : unfit? ((round.elsewhere place).invocation.argv executable) =
    unfit? (round.invocation.argv executable) := by
  have artifact := elsewhere.wordFault?_artifactPath.trans made.wordFault?_artifactPath.symm
  have directory := elsewhere.wordFault?_outputDirectory.trans made.wordFault?_outputDirectory.symm
  refine unfit?_congr (.cons rfl <| .cons rfl <| .cons rfl <| .cons rfl <| .cons rfl <| .cons rfl <|
    .cons rfl <| .cons rfl <| .cons artifact <| .cons rfl <| .cons directory ?_)
  exact List.forall₂_same.mpr fun _ _ => rfl

theorem product_elsewhere :
    (round.elsewhere place).product executable = round.product executable := by
  unfold Round.product Behaviour.productOf
  rw [unfit?_elsewhere made elsewhere]
  rfl

theorem finish_elsewhere : round.behaviour.finish
      ((round.elsewhere place).invocation.argv executable) round.request.timeout =
    (round.behaviour.finish (round.invocation.argv executable) round.request.timeout).map
      ({ · with argv := (round.elsewhere place).invocation.argv executable }) := by
  unfold Behaviour.finish
  rw [unfit?_elsewhere made elsewhere]
  cases unfit? (round.invocation.argv executable) with
  | some fault => rfl
  | none => exact outcome_cons ..

theorem leaves?_elsewhere :
    (round.elsewhere place).leaves? executable = round.leaves? executable := by
  apply Option.ext
  intro content
  rw [leaves?_eq_some, leaves?_eq_some, product_elsewhere made elsewhere, Round.invocation,
    Round.invocation, told_iff, told_iff]
  rfl

end

/-- Reading an artifact comes to the same at another path. -/
theorem same_read (here there : Invocation) (content : Text.Utf8.Bytes) :
    SameAnswer here there
      (((Artifact.read here.artifactPath content).map some).mapError CheckFault.ofArtifact)
      (((Artifact.read there.artifactPath content).map some).mapError CheckFault.ofArtifact) := by
  cases decoded : Text.Utf8.decode content with
  | error fault =>
    rw [Artifact.read_of_undecodable decoded, Artifact.read_of_undecodable decoded]
    exact .unreadable (.notText fault)
  | ok document =>
    rw [Artifact.read_of_decode decoded, Artifact.read_of_decode decoded]
    unfold Artifact.value
    cases Json.read (Artifact.withLineFeeds document) with
    | error fault =>
      cases fault with
      | malformed problem place => exact .notJson problem place
      | tooDeep => exact .unreadable .tooDeep
      | tooManyDigits digits => exact .unreadable (.tooManyDigits digits)
    | ok v =>
      cases v with
      | obj members =>
        simp only [bind, Except.bind, Diagnosis.ofValue]
        cases Checked.entries Diagnosis.readFile members with
        | ok diagnosis => exact .found (some diagnosis)
        | error all => exact .violations all
      | _ => exact .notObject _

section

variable {here other : Site} {place : List Text} (made : round.Made here)
  (elsewhere : (round.elsewhere place).Made other)

include made elsewhere

theorem same_concludes (executable : Text) (status : Int) (stderr : Text) :
    SameAnswer round.invocation (round.elsewhere place).invocation
      (round.concludes executable status stderr)
      ((round.elsewhere place).concludes executable status stderr) := by
  unfold Round.concludes
  rw [leaves?_elsewhere made elsewhere]
  cases round.leaves? executable with
  | some content => exact same_read _ _ content
  | none =>
    dsimp only
    split
    · exact .found none
    · exact .failed status (Text.trim Text.isBlank stderr)

theorem same_comesTo (found : Option Text) :
    SameAnswer round.invocation (round.elsewhere place).invocation (round.comesTo found)
      ((round.elsewhere place).comesTo found) := by
  cases found with
  | none => exact .failed _ _
  | some executable =>
    have behaves : (round.elsewhere place).behaviour = round.behaviour := rfl
    have limits : (round.elsewhere place).request = round.request := rfl
    unfold Round.comesTo
    rw [behaves, limits]
    simp only [finish_elsewhere made elsewhere]
    cases round.behaviour.finish (round.invocation.argv executable) round.request.timeout with
    | ok finished => exact same_concludes made elsewhere executable _ _
    | error fault =>
      -- that there is no executable is a failure of the command, which is kept in it
      cases fault with
      | notFound | missing => exact .failed _ _
      | noWords | unfit | refused | overlong | undecodable | expiredWithoutTimeout =>
        exact .notRun _

end

/-- A check with its output elsewhere, on files that are the same for it, is the same check. -/
theorem same_run {here other : Site} {outputs : List (List Text)} {place : List Text}
    (made : round.Made here) (same : SameFiles outputs round here other)
    (elsewhere : (round.elsewhere place).Made other)
    (named : place = round.place ∨ ¬ round.GoesBy here round.place ∧ ¬ round.GoesBy here place) :
    SameCheck round.invocation (round.elsewhere place).invocation (round.run here)
      ((round.elsewhere place).run other) := by
  have same := found_elsewhere made same elsewhere named
  cases found : round.found here with
  | none =>
    obtain ⟨result, calls, -⟩ := run_of_lost found
    obtain ⟨result', calls', -⟩ := run_of_lost (same.symm.trans found)
    constructor
    · rw [result, result']
      exact same_comesTo made elsewhere none
    · rw [calls, calls']
      exact .nil
  | some executable =>
    obtain ⟨result, calls, -⟩ := run_of_found made found
    obtain ⟨result', calls', -⟩ := run_of_found elsewhere (same.symm.trans found)
    constructor
    · rw [result, result']
      exact same_comesTo made elsewhere (some executable)
    · rw [calls, calls']
      exact .cons (.call executable round.request.timeout) .nil

/-! ### Diagnoses -/

theorem own_of_concludes {executable : Text} {status : Int} {stderr : Text} {diagnosis : Diagnosis}
    (concluded : round.concludes executable status stderr = .ok (some diagnosis)) :
    ∃ content, round.behaviour.product = some (.file content) ∧
      Artifact.read round.invocation.artifactPath content = .ok diagnosis := by
  unfold Round.concludes at concluded
  cases left : round.leaves? executable with
  | some content =>
    simp only [left, mapError_eq_ok, map_eq_ok] at concluded
    obtain ⟨_, read, same⟩ := concluded
    cases same
    exact ⟨content, product_of_productOf (leaves?_eq_some.mp left).1, read⟩
  | none =>
    simp only [left] at concluded
    split at concluded <;> cases concluded

theorem own_of_run (made : round.Made site) {diagnosis : Diagnosis}
    (answered : (round.run site).result = .ok (some diagnosis)) :
    ∃ content, round.behaviour.product = some (.file content) ∧
      Artifact.read round.invocation.artifactPath content = .ok diagnosis := by
  cases found : round.found site with
  | none =>
    rw [(run_of_lost found).1] at answered
    cases answered
  | some executable =>
    rw [(run_of_found made found).1, Round.comesTo] at answered
    split at answered
    · cases answered
    · exact own_of_concludes answered

/-! ### Single rounds -/

/-- A round takes away nothing that is there once its directory is made. -/
theorem isSome_at?_leave (made : round.Made site) {place : List Text}
    (there : ((round.prepared site).site.tree.at? place).isSome) :
    ((round.leave site).tree.at? place).isSome := by
  cases found : round.found site with
  | none =>
    rw [(run_of_lost found).2.2]
    exact there
  | some executable =>
    rw [(run_of_found made found).2.2]
    obtain kept | ⟨path, node, -, put, -⟩ := delivered_cases round site executable
    · rw [kept]
      exact there
    · rw [put]
      exact FileTree.isSome_at?_put there

theorem at?_leave_of_outside (made : round.Made site) (clear : round.request.Clear)
    {place : List Text} (outside : ¬ round.place <+: place) :
    (round.leave site).tree.at? place = site.tree.at? place := by
  cases found : round.found site with
  | none =>
    rw [(run_of_lost found).2.2]
    exact made.at?_prepared_of_outside outside
  | some executable =>
    rw [(run_of_found made found).2.2]
    exact made.at?_delivered_of_outside (clear.valueOf?_command found round.place) outside

/-! ### Series -/

theorem allMade_append {xs ys : List Round} :
    AllMade site (xs ++ ys) ↔ AllMade site xs ∧ AllMade (leaveAll site xs) ys := by
  induction xs generalizing site with
  | nil => simp only [List.nil_append, AllMade, leaveAll, List.foldl_nil, true_and]
  | cons x xs ih => exact (and_congr_right fun _ => ih).trans and_assoc.symm

theorem getElem?_runs (site : Site) (before after : List Round) (round : Round) :
    (runs site (before ++ round :: after))[before.length]? =
      some (round.run (leaveAll site before)) := by
  induction before generalizing site with
  | nil => rfl
  | cons first before ih => exact ih (first.leave site)

theorem place_ne_of_isSome {place : List Text} (made : AllMade site rounds)
    (there : (site.tree.at? place).isSome) : ∀ round ∈ rounds, round.place ≠ place := by
  induction rounds generalizing site with
  | nil => simp
  | cons first rounds ih =>
    obtain ⟨now, later⟩ := made
    have stays : ((first.prepared site).site.tree.at? place).isSome :=
      FileTree.isSome_at?_put there
    rw [List.forall_mem_cons]
    refine ⟨?_, ih later (isSome_at?_leave now stays)⟩
    rintro rfl
    rw [now.vacant _ (List.prefix_refl _)] at there
    cases there

theorem exists_made (made : AllMade site rounds) (mem : round ∈ rounds) :
    ∃ here, round.Made here := by
  induction rounds generalizing site with
  | nil => cases mem
  | cons first rounds ih =>
    obtain ⟨now, later⟩ := made
    obtain rfl | mem := List.mem_cons.mp mem
    · exact ⟨site, now⟩
    · exact ih later mem

theorem nodup_places (made : AllMade site rounds) : (rounds.map (·.place)).Nodup := by
  induction rounds generalizing site with
  | nil => exact List.nodup_nil
  | cons first rounds ih =>
    obtain ⟨now, later⟩ := made
    rw [List.map_cons, List.nodup_cons]
    refine ⟨?_, ih later⟩
    -- The first place is taken from then on, and what is made later was vacant.
    have there : ((first.prepared site).site.tree.at? first.place).isSome := by
      rw [now.at?_prepared, if_pos rfl]
      rfl
    intro mem
    obtain ⟨round, again, same⟩ := List.mem_map.mp mem
    exact place_ne_of_isSome later (isSome_at?_leave now there) round again same

theorem nodup_artifactPaths (made : AllMade site rounds) :
    (rounds.map fun round => round.invocation.artifactPath).Nodup := by
  have placed : (rounds.map fun round => round.invocation.artifactPath).map site.place =
      (rounds.map (·.place)).map (· ++ [artifactName]) := by
    rw [List.map_map, List.map_map]
    refine List.map_congr_left fun round mem => ?_
    obtain ⟨here, made⟩ := exists_made made mem
    exact made.place_artifactPath site
  apply List.Nodup.of_map site.place
  rw [placed]
  exact (nodup_places made).map fun a b same => List.append_cancel_right same

/-- Rounds that write where they are told to leave everything outside their own places alone. -/
theorem at?_leaveAll_of_outside (made : AllMade site rounds)
    (clear : ∀ round ∈ rounds, round.request.Clear) {place : List Text}
    (outside : ∀ round ∈ rounds, ¬ round.place <+: place) :
    (leaveAll site rounds).tree.at? place = site.tree.at? place := by
  induction rounds generalizing site with
  | nil => rfl
  | cons first rounds ih =>
    obtain ⟨now, later⟩ := made
    rw [List.forall_mem_cons] at clear outside
    calc
      _ = (first.leave site).tree.at? place := ih later clear.2 outside.2
      _ = _ := at?_leave_of_outside now clear.1 outside.1

theorem cwd_leaveAll (site : Site) (rounds : List Round) : (leaveAll site rounds).cwd = site.cwd := by
  induction rounds generalizing site with
  | nil => rfl
  | cons first rounds ih => exact ih (first.leave site)

theorem sameFiles_leaveAll (made : AllMade site before)
    (clear : ∀ earlier ∈ before, earlier.request.Clear)
    (aside : ∀ earlier ∈ before, ∀ below, earlier.place <+: below →
      ¬ round.GoesBy (leaveAll site before) below) :
    SameFiles (before.map (·.place)) round (leaveAll site before) site := by
  refine ⟨cwd_leaveAll site before, fun place counts => ?_⟩
  refine at?_leaveAll_of_outside made clear fun earlier mem within => ?_
  refine aside earlier mem place within (counts ⟨earlier.place, ?_, within⟩)
  exact List.mem_map_of_mem mem

/-- In a series of checks all artifact paths are different, and what each check comes to does not
depend on what earlier ones left behind. -/
theorem runs_independent (made : AllMade site rounds) :
    (rounds.map fun round => round.invocation.artifactPath).Nodup ∧
      ∀ before round after, rounds = before ++ round :: after →
        (runs site rounds)[before.length]? = some (round.run (leaveAll site before)) ∧
          Independent site before round := by
  refine ⟨nodup_artifactPaths made, fun before round after split => ?_⟩
  subst split
  obtain ⟨earlier, now, -⟩ := allMade_append.mp made
  refine ⟨getElem?_runs site before after round, ?_, ?_, ?_⟩
  · intro other place same elsewhere named
    exact same_run now same elsewhere named
  · intro diagnosis answered
    exact own_of_run now answered
  · intro clear aside
    exact sameFiles_leaveAll earlier clear aside

end

attribute [local instance] Platform.loose

/-- A server that leaves nothing, after one that left a diagnosis. -/
theorem runs_independent_silent :
    let site : Site := ⟨⟨[([text "tmp"], .directory), ([text "work"], .directory)]⟩, text "/"⟩
    let request : Request :=
      { workspace := ⟨.none, [text "work"]⟩, executable := text "/opt/server" }
    let content := text "\x7b\"file:///work/a.lua\": []\x7d"
    let reports : Behaviour := .exits (some (.file content)) 1 (.text []) (.text [])
    let first : Round := ⟨outputPlace 0, [], reports, request⟩
    let second : Round := ⟨outputPlace 1, [], .exits none 0 (.text []) (.text []), request⟩
    let alone := second.elsewhere (outputPlace 0)
    AllMade site [first, second] ∧ alone.Made site ∧
      (first.leave site).at? first.invocation.artifactPath = .ok (some (.file false content)) ∧
      first.invocation.artifactPath ≠ second.invocation.artifactPath ∧
      (∀ diagnosis, (second.run (first.leave site)).result ≠ .ok (some diagnosis)) ∧
      SameCheck second.invocation alone.invocation (second.run (first.leave site))
        (alone.run site) := by
  intro site request content reports first second alone
  have fresh : freshNumber site.tree = 0 := by decide +kernel
  have next (round : Round) : (round.host site).nextOutput = outputPlace 0 :=
    congrArg outputPlace fresh
  have later : (second.host (first.leave site)).nextOutput = outputPlace 1 := by decide +kernel
  have connected : site.tree.Connected := FileTree.connected_of_nodes (by decide +kernel)
  have now (round : Round) : (round.elsewhere (outputPlace 0)).Made site := by
    rw [← next round]
    exact made_nextOutput connected (by decide +kernel) (by decide +kernel)
  have afterwards : (second.elsewhere (outputPlace 1)).Made (first.leave site) := by
    rw [← later]
    exact made_nextOutput (FileTree.connected_of_nodes (by decide +kernel)) (by decide +kernel)
      (by decide +kernel)
  have made : AllMade site [first, second] := ⟨now first, afterwards, trivial⟩
  have absolute (place : List Text) : ¬ second.GoesBy (first.leave site) place :=
    fun passed => absurd passed.1 (by decide +kernel)
  obtain ⟨distinct, independent⟩ := runs_independent made
  obtain ⟨same, own, kept⟩ := (independent [first] second [] rfl).2
  refine ⟨made, now second, ?_, ?_, ?_, ?_⟩
  · exact Validation.toOption_eq_some.mp (by decide +kernel)
  · intro shared
    exact (List.nodup_cons.mp distinct).1 (List.mem_singleton.mpr shared)
  · intro diagnosis answered
    obtain ⟨content, product, -⟩ := own diagnosis answered
    cases product
  · have clear : ∀ earlier ∈ [first], earlier.request.Clear :=
      List.forall_mem_singleton.mpr ⟨by decide +kernel, by decide +kernel⟩
    have files := kept clear fun _ _ below _ => absolute below
    exact same site (outputPlace 0) files (now second) (.inr ⟨absolute _, absolute _⟩)

end CheckReport.Server
