import Mathlib.Data.List.TakeWhile
import CheckReport.Proofs.Path.Basic
import CheckReport.Proofs.Text.Shell
import CheckReport.Proofs.Text.StandsFor
import CheckReport.Server.Check
import CheckReport.Server.Command

/-!
# Runs start what their commands name

The executable that is found for a word is what the word names (`resolve_eq_some_iff`), and where none
is found the word is lost (`resolve_eq_none_iff`). So a run of a command starts the program that is
named, once, or nothing (`run_command`). The command line that a failure or the log tells of is read by a
shell as the command that was run (`commandLine_pasted`).
-/

namespace CheckReport

/-! ### Decoding what was caught -/

namespace Text.Utf8

theorem filter_strays {bad : Bytes} (bytes : ∀ b ∈ bad, b < 0x100) :
    (bad.map (0xDC00 + ·)).filter (fun c => !isSurrogate c) = [] := by
  rw [List.filter_eq_nil_iff, List.forall_mem_map]
  intro b mem
  have small := bytes b mem
  have surrogate : isSurrogate (0xDC00 + b) = true := by
    simp only [isSurrogate, Bool.and_eq_true, decide_eq_true_eq]
    omega
  simp [surrogate]

/-- Reading over the bytes at fault gives the text that stands for all bytes, without what stands for
those. -/
theorem decodeLossy_eq_filter {s : Bytes} (bytes : ∀ b ∈ s, b < 0x100) :
    decodeLossy s = (decodeEscaping s).filter fun c => !isSurrogate c := by
  fun_induction decodeLossy s with
  | case1 s done =>
    obtain rfl := step_eq_done_iff.mp done
    rw [decodeEscaping]
    rfl
  | case2 s c rest char _ ih =>
    obtain ⟨scalar, rfl⟩ := step_eq_char_iff.mp char
    have kept : (!isSurrogate c) = true := by simp [scalar.2]
    rw [decodeEscaping]
    split
    · next done => cases char.symm.trans done
    · next read =>
      obtain ⟨rfl, rfl⟩ := Step.char.inj (char.symm.trans read)
      show c :: decodeLossy rest = (c :: decodeEscaping rest).filter fun c => !isSurrogate c
      rw [List.filter_cons, if_pos kept, ih (List.forall_mem_append.mp bytes).2]
    · next broken => cases char.symm.trans broken
  | case3 s bad reason rest fault _ ih =>
    obtain ⟨rfl, -⟩ := isFault_of_step fault
    obtain ⟨first, later⟩ := List.forall_mem_append.mp bytes
    rw [decodeEscaping]
    split
    · next done => cases fault.symm.trans done
    · next read => cases fault.symm.trans read
    · next broken =>
      obtain ⟨rfl, _, rfl⟩ := Step.fault.inj (fault.symm.trans broken)
      rw [List.filter_append, filter_strays first, List.nil_append, ih later]

end Text.Utf8

namespace Server

open Validation (map_eq_ok mapError_eq_ok bind_eq_ok)

variable {host : Host} {behaviour : Behaviour} {timeout : Option Binary64} {word executable : Text}
  {argv : List Text}

theorem toText_of_caught {output : Option Output} {s : Text} (caught : Caught output s) :
    Output.toText output = s := by
  cases caught with
  | nothing => rfl
  | text => rfl
  | bytes bytes stands =>
    rw [Text.Utf8.standsFor_iff.mp stands]
    exact Text.Utf8.decodeLossy_eq_filter bytes

theorem read_eq_ok_iff {output : Output} {s : Text} : output.read = .ok s ↔ Reads output s := by
  cases output with
  | text t =>
    rw [Output.read, Except.ok.injEq]
    constructor
    · rintro rfl
      exact .text t
    · rintro ⟨⟩
      rfl
  | bytes b =>
    rw [Output.read, mapError_eq_ok, map_eq_ok]
    constructor
    · rintro ⟨t, decoded, rfl⟩
      obtain ⟨scalar, rfl⟩ := Text.Utf8.decode_eq_ok_iff.mp decoded
      exact .bytes scalar
    · rintro ⟨⟩
      exact ⟨_, Text.Utf8.decode_eq_ok_iff.mpr ⟨‹_›, rfl⟩, rfl⟩

/-- Only bytes are found to be no text. -/
theorem read_eq_error_iff {output : Output} {fault : RunFault} : output.read = .error fault ↔
    ∃ b found, output = .bytes b ∧ Text.Utf8.decode b = .error found ∧
      fault = .undecodable found := by
  cases output with
  | text t => simp [Output.read]
  | bytes b =>
    cases decoded : Text.Utf8.decode b with
    | ok t => simp [Output.read, decoded, Except.map, Except.mapError]
    | error found => simp [Output.read, decoded, Except.map, Except.mapError, eq_comm]

/-! ### Programs -/

theorem isExecutable_iff {site : Site} {path : Text} :
    site.isExecutable path = true ↔ site.HasProgram path := by
  unfold Site.isExecutable Site.HasProgram
  match site.at? path with
  | .error _ => simp
  | .ok none => simp
  | .ok (some .directory) => simp [Node.isExecutable]
  | .ok (some (.file executable _)) => simp [Node.isExecutable]

theorem slash_mem_of_absolute (absolute : Path.isAbsoluteText word = true) : Text.slash ∈ word := by
  rw [Path.isAbsoluteText, decide_eq_true_eq] at absolute
  exact List.mem_of_head? absolute

theorem resolve_of_absolute (absolute : Path.isAbsoluteText word = true) :
    resolve host word = some (Path.ofText word).toText := by
  rw [← Path.isAbsolute_ofText] at absolute
  simp only [resolve, absolute, if_true]

theorem resolve_of_relative (relative : Path.isAbsoluteText word = false) :
    resolve host word = lookup host word := by
  rw [← Path.isAbsolute_ofText] at relative
  simp only [resolve, relative, Bool.false_eq_true, if_false]

theorem lookup_of_path (path : Text.slash ∈ word) :
    lookup host word = if host.site.isExecutable word then some word else none := by
  rw [lookup, if_pos (List.contains_iff_mem.mpr path)]

theorem lookup_of_bare (bare : Text.slash ∉ word) : lookup host word =
    (host.directories.find? fun directory => host.site.isExecutable (inDirectory directory word)).map
      (inDirectory · word) := by
  rw [lookup, if_neg (mt List.contains_iff_mem.mp bare), Host.directories]
  split
  · rfl
  · exact List.find?_map ..

theorem resolve_of_path (relative : Path.isAbsoluteText word = false) (path : Text.slash ∈ word) :
    resolve host word = some executable ↔ executable = word ∧ host.site.HasProgram word := by
  rw [resolve_of_relative relative, lookup_of_path path, ← isExecutable_iff]
  split
  · next there => simp [there, eq_comm]
  · next absent => simp [absent]

theorem resolve_of_bare (bare : Text.slash ∉ word) :
    resolve host word = some executable ↔ ∃ before directory after,
      host.directories = before ++ directory :: after ∧
      (∀ other ∈ before, ¬ host.site.HasProgram (inDirectory other word)) ∧
      host.site.HasProgram (inDirectory directory word) ∧ inDirectory directory word = executable := by
  have relative : Path.isAbsoluteText word = false :=
    Bool.eq_false_iff.mpr (mt slash_mem_of_absolute bare)
  rw [resolve_of_relative relative, lookup_of_bare bare, Option.map_eq_some_iff]
  simp only [List.find?_eq_some_iff_append, isExecutable_iff, Bool.not_eq_true', ← Bool.not_eq_true]
  constructor
  · rintro ⟨directory, ⟨there, before, after, searched, earlier⟩, rfl⟩
    exact ⟨before, directory, after, searched, earlier, there, rfl⟩
  · rintro ⟨before, directory, after, searched, earlier, there, rfl⟩
    exact ⟨directory, ⟨there, before, after, searched, earlier⟩, rfl⟩

theorem resolve_eq_some_iff : resolve host word = some executable ↔ Names host word executable := by
  constructor
  · intro found
    cases absolute : Path.isAbsoluteText word with
    | true =>
      rw [resolve_of_absolute absolute] at found
      obtain rfl := Option.some.inj found
      exact .absolute absolute
    | false =>
      by_cases path : Text.slash ∈ word
      · obtain ⟨rfl, there⟩ := (resolve_of_path absolute path).mp found
        exact .relative absolute path there
      · obtain ⟨before, directory, after, searched, earlier, there, rfl⟩ :=
          (resolve_of_bare path).mp found
        exact .bare path searched earlier there
  · intro names
    cases names with
    | absolute absolute => exact resolve_of_absolute absolute
    | relative relative path there => exact (resolve_of_path relative path).mpr ⟨rfl, there⟩
    | bare bare searched earlier there =>
      exact (resolve_of_bare bare).mpr ⟨_, _, _, searched, earlier, there, rfl⟩

theorem resolve_eq_none_iff : resolve host word = none ↔ Lost host word := by
  cases absolute : Path.isAbsoluteText word with
  | true =>
    rw [resolve_of_absolute absolute]
    refine iff_of_false nofun fun lost => ?_
    cases absolute.symm.trans lost.relative
  | false =>
    rw [resolve_of_relative absolute]
    by_cases path : Text.slash ∈ word
    · rw [lookup_of_path path]
      constructor
      · intro none
        refine ⟨absolute, fun _ there => ?_, fun bare => absurd path bare⟩
        rw [if_pos (isExecutable_iff.mpr there)] at none
        cases none
      · intro lost
        exact if_neg (mt isExecutable_iff.mp (lost.here path))
    · rw [lookup_of_bare path, Option.map_eq_none_iff, List.find?_eq_none]
      simp only [isExecutable_iff]
      exact ⟨fun none => ⟨absolute, fun mem => absurd mem path, fun _ => none⟩,
        fun lost => lost.searched path⟩

/-- The program that an absolute path names is at its place. -/
theorem place_of_absolute (absolute : Path.isAbsoluteText word = true) (site : Site) :
    site.place (Path.ofText word).toText = site.place word :=
  Path.resolve_toText_ofText absolute site.cwd

/-! ### Words and times -/

theorem wordFault?_eq_none_iff : wordFault? word = none ↔ Site.isPossible word = true := by
  unfold wordFault? Site.isPossible
  rw [List.all_eq_true]
  split
  · next all =>
    have givable := List.dropWhile_eq_nil_iff.mp all
    simp only [ite_eq_right_iff, reduceCtorEq, imp_false, Bool.and_eq_true, decide_eq_true_eq]
    constructor
    · exact fun free c mem => ⟨fun zero => free (zero ▸ mem), givable c mem⟩
    · exact fun each zero => (each 0 zero).1 rfl
  · next stops =>
    refine iff_of_false nofun fun each => stops (List.dropWhile_eq_nil_iff.mpr ?_)
    exact fun c mem => (Bool.and_eq_true_iff.mp (each c mem)).2

section

variable [Platform]

theorem unfit?_eq_none_iff : unfit? argv = none ↔ Fit argv := by
  unfold unfit? Fit
  split
  · next system =>
    simp only [List.findSome?_eq_none_iff, wordFault?_eq_none_iff, system, true_implies]
  · next standIn => simp [standIn]

theorem wait_eq_ok_iff : wait timeout = .ok () ↔ Waits timeout := by
  unfold wait Waits
  split
  · next time longest set limit => simp [limit]
  · next free =>
    refine iff_of_true rfl fun time longest set limit => ?_
    exact absurd limit (free time longest set)

theorem wait_eq_error_iff {fault : RunFault} : wait timeout = .error fault ↔
    ¬ Waits timeout ∧ ∃ time, timeout = some time ∧ fault = .overlong time := by
  rw [← wait_eq_ok_iff]
  unfold wait
  split
  · next time longest set limit =>
    split
    · simp
    · simp [eq_comm]
  · simp

/-! ### Processes -/

theorem finish_of_unfit {fault : WordFault} (first : unfit? argv = some fault) :
    behaviour.finish argv timeout = .error (.unfit fault) := by
  simp only [Behaviour.finish, first]

theorem finish_of_fit (fit : Fit argv) :
    behaviour.finish argv timeout = behaviour.outcome argv timeout := by
  simp only [Behaviour.finish, unfit?_eq_none_iff.mpr fit]

theorem productOf_of_fit (fit : Fit argv) : behaviour.productOf argv = behaviour.product := by
  rw [Behaviour.productOf, unfit?_eq_none_iff.mpr fit]
  rfl

theorem outcome_of_overlong (started : behaviour.Started timeout) {time : Binary64}
    (set : timeout = some time) (long : ¬ Waits timeout) :
    behaviour.outcome argv timeout = .error (.overlong time) := by
  have stopped : wait timeout = .error (.overlong time) :=
    wait_eq_error_iff.mpr ⟨long, time, set, rfl⟩
  cases started with
  | exits =>
    rw [Behaviour.outcome, stopped]
    rfl
  | expires =>
    rw [Behaviour.outcome, stopped]
    rfl

section

variable (waits : Waits timeout)

include waits

/-- A process that is waited for and ends is read: its standard output first. -/
theorem outcome_exits (product : Option Product) (status : Int) (stdout stderr : Output) :
    (Behaviour.exits product status stdout stderr).outcome argv timeout = (do
      let printed ← stdout.read
      let said ← stderr.read
      return ⟨argv, status, printed, said⟩) := by
  rw [Behaviour.outcome, wait_eq_ok_iff.mpr waits]
  rfl

theorem outcome_expires (product : Option Product) (stdout stderr : Option Output)
    {limit : Binary64} (set : timeout = some limit) :
    (Behaviour.expires product stdout stderr).outcome argv timeout =
      .ok ⟨argv, timeoutStatus, Output.toText stdout,
        withNote (Output.toText stderr) (timeoutNote limit)⟩ := by
  rw [Behaviour.outcome, wait_eq_ok_iff.mpr waits]
  subst set
  rfl

theorem outcome_of_finishes {finished : Finished}
    (finishes : Finishes argv timeout behaviour finished) :
    behaviour.outcome argv timeout = .ok finished := by
  cases finishes with
  | exits product status out err =>
    rw [outcome_exits waits, read_eq_ok_iff.mpr out, read_eq_ok_iff.mpr err]
    rfl
  | expiresSaying product set out err some =>
    rw [outcome_expires waits product _ _ set, toText_of_caught out, toText_of_caught err,
      withNote, if_neg some, List.append_assoc]
    rfl
  | expiresSilent product set out err =>
    rw [outcome_expires waits product _ _ set, toText_of_caught out, toText_of_caught err,
      withNote, if_pos rfl]
    rfl

end

theorem fails_of_overlong {rest : List Text} {fault : RunFault} (fit : Fit (executable :: rest))
    (started : behaviour.Started timeout) (long : ¬ Waits timeout)
    (failed : behaviour.outcome (executable :: rest) timeout = .error fault) :
    Fails executable rest timeout behaviour fault := by
  cases set : timeout with
  | none =>
    subst set
    exact absurd (fun _ _ unset => by cases unset) long
  | some time =>
    rw [outcome_of_overlong started set long] at failed
    cases failed
    exact .overlong fit (set ▸ started) rfl (set ▸ long)

/-- A process that is waited for fails by the first of its outputs that is no text. -/
theorem fails_of_unread {rest : List Text} {product : Option Product} {status : Int}
    {stdout stderr : Output} {fault : RunFault} (fit : Fit (executable :: rest))
    (waits : Waits timeout) (failed : (Behaviour.exits product status stdout stderr).outcome
      (executable :: rest) timeout = .error fault) :
    Fails executable rest timeout (.exits product status stdout stderr) fault := by
  rw [outcome_exits waits] at failed
  cases out : stdout.read with
  | error found =>
    rw [out] at failed
    cases failed
    obtain ⟨b, bad, rfl, decoded, rfl⟩ := read_eq_error_iff.mp out
    exact .stdout fit waits decoded
  | ok printed =>
    cases err : stderr.read with
    | error found =>
      rw [out, err] at failed
      cases failed
      obtain ⟨b, bad, rfl, decoded, rfl⟩ := read_eq_error_iff.mp err
      exact .stderr fit waits (read_eq_ok_iff.mp out) decoded
    | ok said =>
      rw [out, err] at failed
      cases failed

theorem fails_of_outcome {rest : List Text} {fault : RunFault} (fit : Fit (executable :: rest))
    (failed : behaviour.outcome (executable :: rest) timeout = .error fault) :
    Fails executable rest timeout behaviour fault := by
  cases behaviour with
  | missing =>
    cases failed
    exact .missing fit
  | refused error =>
    cases failed
    exact .refused fit error
  | exits product status stdout stderr =>
    by_cases waits : Waits timeout
    · exact fails_of_unread fit waits failed
    · exact fails_of_overlong fit (.exits product status stdout stderr) waits failed
  | expires product stdout stderr =>
    cases set : timeout with
    | none =>
      subst set
      cases failed
      exact .unset fit rfl
    | some limit =>
      by_cases waits : Waits timeout
      · rw [outcome_expires waits product stdout stderr set] at failed
        cases failed
      · rw [← set]
        exact fails_of_overlong fit (.expires product stdout stderr set) waits failed

/-- The error of a call is the one that its process comes to. -/
theorem finish_eq_error_iff {rest : List Text} {fault : RunFault} :
    behaviour.finish (executable :: rest) timeout = .error fault ↔
      Fails executable rest timeout behaviour fault := by
  constructor
  · intro failed
    cases unfit : unfit? (executable :: rest) with
    | some found =>
      rw [finish_of_unfit unfit] at failed
      cases failed
      exact .unfit behaviour unfit
    | none =>
      have fit := unfit?_eq_none_iff.mp unfit
      rw [finish_of_fit fit] at failed
      exact fails_of_outcome fit failed
  · intro fails
    cases fails with
    | unfit _ first => exact finish_of_unfit first
    | missing fit => exact finish_of_fit fit
    | refused fit error => exact finish_of_fit fit
    | overlong fit started set long =>
      rw [finish_of_fit fit]
      exact outcome_of_overlong started set long
    | stdout fit waits bad =>
      rw [finish_of_fit fit, outcome_exits waits, read_eq_error_iff.mpr ⟨_, _, rfl, bad, rfl⟩]
      rfl
    | stderr fit waits out bad =>
      rw [finish_of_fit fit, outcome_exits waits, read_eq_ok_iff.mpr out,
        read_eq_error_iff.mpr ⟨_, _, rfl, bad, rfl⟩]
      rfl
    | unset fit unset =>
      rw [finish_of_fit fit, Behaviour.outcome]
      subst unset
      rfl

/-! ### Runs -/

theorem run_cons_of_lost (lost : Lost host word) (rest : List Text) :
    run host behaviour timeout (word :: rest) = ⟨.error (.notFound word), [], host.site.tree⟩ := by
  simp only [run, resolve_eq_none_iff.mpr lost]

theorem run_cons_of_names (names : Names host word executable) (rest : List Text) :
    run host behaviour timeout (word :: rest) =
      ⟨behaviour.finish (executable :: rest) timeout, [⟨executable :: rest, timeout⟩],
        deliver host.site (executable :: rest) (behaviour.productOf (executable :: rest))⟩ := by
  simp only [run, resolve_eq_some_iff.mpr names]

theorem runsCommand_of_lost (lost : Lost host word) (rest : List Text) :
    RunsCommand host behaviour timeout (word :: rest)
      ⟨.error (.notFound word), [], host.site.tree⟩ where
  noWords := iff_of_false nofun (List.cons_ne_nil word rest)
  notFound name := by
    rw [List.head?_cons]
    constructor
    · rintro same
      cases same
      exact ⟨rfl, lost⟩
    · rintro ⟨same, -⟩
      cases same
      rfl
  unstarted _ := ⟨rfl, rfl⟩
  started other rest' same found := by
    obtain ⟨rfl, rfl⟩ := List.cons.inj same
    exact absurd lost found

theorem callsProgram_of_names (names : Names host word executable) (rest : List Text)
    (tree : FileTree) :
    CallsProgram host behaviour timeout word rest executable
      ⟨behaviour.finish (executable :: rest) timeout, [⟨executable :: rest, timeout⟩], tree⟩ where
  names other := by
    rw [← resolve_eq_some_iff, resolve_eq_some_iff.mpr names, Option.some.injEq, eq_comm]
  place absolute := by
    have found := resolve_eq_some_iff.mpr names
    rw [resolve_of_absolute absolute] at found
    rw [← Option.some.inj found]
    exact place_of_absolute absolute host.site
  calls := rfl
  finished finished fit waits finishes :=
    (finish_of_fit fit).trans (outcome_of_finishes waits finishes)
  failed _ := finish_eq_error_iff

theorem runsCommand_of_names (names : Names host word executable) (rest : List Text) (tree : FileTree) :
    RunsCommand host behaviour timeout (word :: rest)
      ⟨behaviour.finish (executable :: rest) timeout, [⟨executable :: rest, timeout⟩], tree⟩ := by
  have found := resolve_eq_some_iff.mpr names
  have named : ¬ Lost host word := fun lost => by cases found.symm.trans (resolve_eq_none_iff.mpr lost)
  refine ⟨iff_of_false ?_ (List.cons_ne_nil word rest), ?_, ?_, ?_⟩
  · intro none
    cases finish_eq_error_iff.mp none
  · intro name
    refine iff_of_false (fun lost => ?_) fun given => named ?_
    · cases finish_eq_error_iff.mp lost
    · rw [Option.some.inj given.1]
      exact given.2
  · intro lost
    exact absurd (lost word rfl) named
  · intro other rest' same _
    obtain ⟨rfl, rfl⟩ := List.cons.inj same
    exact ⟨executable, callsProgram_of_names names rest tree⟩

/-- A run of a command starts the program that its first word names, once, and with the other words as
they are; without words, or where nothing is named, it starts nothing and says so. -/
theorem run_command (host : Host) (behaviour : Behaviour) (timeout : Option Binary64)
    (words : List Text) :
    RunsCommand host behaviour timeout words (run host behaviour timeout words) := by
  cases words with
  | nil => exact ⟨iff_of_true rfl rfl, fun _ => iff_of_false nofun nofun, fun _ => ⟨rfl, rfl⟩, nofun⟩
  | cons word rest =>
    cases found : resolve host word with
    | none =>
      have lost := resolve_eq_none_iff.mp found
      rw [run_cons_of_lost lost]
      exact runsCommand_of_lost lost rest
    | some executable =>
      have names := resolve_eq_some_iff.mp found
      rw [run_cons_of_names names]
      exact runsCommand_of_names names rest _

end

attribute [local instance] Platform.loose

/-- Output of which nothing decodes counts as none as the time runs out. Of a process that ends, output
that does not decode is an error, as a word with a zero and a time without end are, and a line break of
two characters becomes a line feed. -/
theorem run_command_changes :
    let host : Host := ⟨⟨⟨[]⟩, text "/"⟩, []⟩
    let server := text "/server"
    let ends (stdout stderr : Output) : Behaviour := .exits none 0 stdout stderr
    let late : Behaviour := .expires none none (some (.bytes [0xFF]))
    let second := Binary64.ofInt 1
    (run host late (some second) [server]).result =
        .ok ⟨[server], 124, [], timeoutNote second⟩ ∧
      (run host (ends (.text []) (.text [])) none [server, [0]]).result = .error (.unfit .zero) ∧
      (run host (ends (.text []) (.bytes [0xFF])) none [server]).result =
        .error (.undecodable ⟨0, [0xFF], .invalidStart⟩) ∧
      (run host (ends (.text []) (.text [])) (some (.infinite false)) [server]).result =
        .error (.overlong (.infinite false)) ∧
      (run host (ends (.bytes (text "a\r\n")) (.text [])) none [server]).result =
        .ok ⟨[server], 0, text "a\n", []⟩ := by
  refine ⟨?_, ?_, ?_, ?_, ?_⟩ <;> decide +kernel

/-! ### Commands are told in full -/

open Text.Shell (splitWords splitWords_joinWords joinWords_inj)

theorem runningLine_commandLine (failure : Failure) :
    runningLine failure.command = text "running " ++ failure.commandLine :=
  rfl

/-- A shell reads the command line of any command, also as the log has it, as the command, and
different commands have different command lines. -/
theorem commandLine_pasted (failure : Failure) :
    splitWords failure.commandLine = some failure.command ∧
      (∃ line, runningLine failure.command = text "running " ++ line ∧
        splitWords line = some failure.command) ∧
      ∀ other : Failure, failure.commandLine = other.commandLine ↔ failure.command = other.command :=
  ⟨splitWords_joinWords failure.command,
    ⟨_, runningLine_commandLine failure, splitWords_joinWords failure.command⟩,
    fun _ => joinWords_inj⟩

end Server

end CheckReport
