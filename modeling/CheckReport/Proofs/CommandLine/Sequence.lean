import CheckReport.Diagnosis.Document
import CheckReport.Proofs.CommandLine.Gate
import CheckReport.Proofs.Report.Visible
import CheckReport.Proofs.Terminal.Sequence

/-!
# Sequences in the output without paint

Where paint is off, the output of a run has a sequence just if the report leaves one
(`run_hasSequence_iff`): the control sequences in paths, codes and messages are removed in one pass,
in which others can come together, and links are not removed.
-/

namespace CheckReport

open Server (Behaviour)
open Terminal (Environment Stream Line Painter Token HasSequence LeavesSequence escapeChar
  withoutControls)

theorem Report.not_mem_plain_of_escapeFree {diagnosis : Diagnosis} (free : diagnosis.EscapeFree)
    (cwd : Text) : escapeChar ∉ (whole cwd diagnosis).toText ⟨false⟩ := by
  have texts : ∀ s ∈ (whole cwd diagnosis).lines.map Line.plain, ∀ c ∈ s, c ≠ escapeChar := by
    rw [List.forall_mem_map]
    exact fun l mem => forall_mem_plain (escapeFree_whole free cwd l mem)
  have feed : ∀ c ∈ [Text.newline], c ≠ escapeChar := by decide
  rw [toText, Painter.page_disabled]
  exact List.forall_mem_ne'.mp ((Text.forall_mem_join feed).mpr texts)

namespace CommandLine

theorem stdout_run [Platform] {session : Session} {environment : Environment} {stream : Stream}
    {words : List Text} {options : Options} {settings : Settings} {painter : Painter}
    (usable : Usable session environment stream words options settings painter)
    (behaviour : Behaviour) :
    (run session environment stream behaviour words).1.stdout =
      (conclude painter session.site.cwd settings.workspace
        (Server.check (session.host environment) behaviour settings.request).result).2.1 := by
  rw [run_of_usable usable]
  exact (runWith_of_conclude rfl).2.1

/-- What is printed without paint: a report that is made, as far as one pass leaves it. -/
theorem conclude_stdout_cases (cwd : Text) (workspace : Path)
    (answer : Except Server.CheckFault (Option Diagnosis)) :
    ((conclude ⟨false⟩ cwd workspace answer).2.1 = [] ∧
      ∀ diagnosis s stats, answer = .ok (some diagnosis) →
        Report.rendered ⟨false⟩ cwd diagnosis ≠ .ok (s, stats)) ∨
    ∃ diagnosis, answer = .ok (some diagnosis) ∧
      Report.rendered ⟨false⟩ cwd diagnosis =
        .ok ((Report.whole cwd diagnosis).toText ⟨false⟩, (Report.whole cwd diagnosis).stats) ∧
      (conclude ⟨false⟩ cwd workspace answer).2.1 =
        withoutControls ((Report.whole cwd diagnosis).toText ⟨false⟩) ++ [Text.newline] := by
  cases answer with
  | error fault =>
    refine .inl ⟨by cases fault <;> rfl, ?_⟩
    rintro _ _ _ ⟨⟩
  | ok found =>
    cases found with
    | none =>
      refine .inl ⟨rfl, ?_⟩
      rintro _ _ _ ⟨⟩
    | some diagnosis =>
      cases made : Report.ofDiagnosis cwd diagnosis with
      | error fault =>
        refine .inl ⟨by simp only [conclude, reported, made], ?_⟩
        rintro _ _ _ ⟨⟩
        rw [Report.rendered, made]
        rintro ⟨⟩
      | ok report =>
        obtain ⟨_, rfl⟩ := Report.ofDiagnosis_eq_ok_iff.mp made
        refine .inr ⟨diagnosis, rfl, ?_, ?_⟩
        · rw [Report.rendered, made]
          rfl
        · simp only [conclude, reported, made]
          rfl

/-- Without paint the output has a sequence just where a report is made that leaves one. No escape
character is put out for a diagnosis without any. -/
theorem run_hasSequence_iff [Platform] {session : Session} {environment : Environment} {stream : Stream}
    {words : List Text} {options : Options} {settings : Settings} {painter : Painter}
    (usable : Usable session environment stream words options settings painter)
    (disabled : painter.enabled = false) (behaviour : Behaviour) :
    let answer := (Server.check (session.host environment) behaviour settings.request).result
    let result := (run session environment stream behaviour words).1
    (HasSequence result.stdout ↔ ∃ diagnosis s stats, answer = .ok (some diagnosis) ∧
      Report.rendered painter session.site.cwd diagnosis = .ok (s, stats) ∧ LeavesSequence s) ∧
    ∀ diagnosis, answer = .ok (some diagnosis) → diagnosis.EscapeFree →
      escapeChar ∉ result.stdout := by
  intro answer result
  obtain rfl : painter = ⟨false⟩ := by cases painter; exact congrArg Painter.mk disabled
  have written : result.stdout = _ := stdout_run usable behaviour
  rw [written]
  rcases conclude_stdout_cases session.site.cwd settings.workspace answer with
    ⟨empty, unmade⟩ | ⟨diagnosis, given, rendered, printed⟩
  · rw [empty]
    refine ⟨⟨fun has => ?_, ?_⟩, fun _ _ _ => List.not_mem_nil⟩
    · exact absurd has (Terminal.not_hasSequence_of_free List.not_mem_nil)
    · rintro ⟨diagnosis, s, stats, given, rendered, _⟩
      exact absurd rendered (unmade diagnosis s stats given)
  · rw [printed, Terminal.hasSequence_append_newline, Terminal.hasSequence_withoutControls_iff]
    refine ⟨⟨fun leaves => ⟨diagnosis, _, _, given, rendered, leaves⟩, ?_⟩, ?_⟩
    · rintro ⟨diagnosis', s, stats, given', rendered', leaves⟩
      rw [given] at given'
      cases given'
      rw [rendered] at rendered'
      cases rendered'
      exact leaves
    · intro diagnosis' given' free mem
      rw [given] at given'
      cases given'
      rcases List.mem_append.mp mem with left | feed
      · exact Report.not_mem_plain_of_escapeFree free session.site.cwd
          ((Terminal.withoutControls_sublist _).subset left)
      · exact absurd (List.mem_singleton.mp feed) (by decide)

attribute [local instance] Platform.loose

theorem usable_noColor :
    Usable { site := ⟨⟨[([text "work"], .directory)]⟩, text "/"⟩ } [] .file
      [text "--no-color", text "--executable=/opt/server", text "work"]
      { workspace := ⟨.none, [text "work"]⟩, color := .never, executable := text "/opt/server" }
      { workspace := ⟨.none, [text "work"]⟩, color := .never, executable := text "/opt/server" }
      ⟨false⟩ :=
  ⟨by decide +kernel, rfl, rfl⟩

theorem run_hasSequence_iff_styled :
    let session : Session := { site := ⟨⟨[([text "work"], .directory)]⟩, text "/"⟩ }
    let words := [text "--no-color", text "--executable=/opt/server", text "work"]
    let options : Options :=
      { workspace := ⟨.none, [text "work"]⟩, color := .never, executable := text "/opt/server" }
    let settings : Settings :=
      { workspace := ⟨.none, [text "work"]⟩, color := .never, executable := text "/opt/server" }
    let document : Diagnosis.Formed := [(text "file:///a", [(⟨text "c", text "\x1b[31mm\x1b[0m",
      ⟨⟨0, 0⟩, ⟨none, 1⟩⟩, .error⟩, {})])]
    let behaviour : Behaviour := .exits (some (.file document.toValue.print)) 0 (.text []) (.text [])
    let answer := (Server.check (session.host []) behaviour settings.request).result
    let result := (run session [] .file behaviour words).1
    Usable session [] .file words options settings ⟨false⟩ ∧
      (HasSequence result.stdout ↔ ∃ diagnosis s stats, answer = .ok (some diagnosis) ∧
        Report.rendered ⟨false⟩ (text "/") diagnosis = .ok (s, stats) ∧ LeavesSequence s) ∧
      result.stdout = text "a  1 Error\n  1:1-1  [Error] c: m\n\nTotal 1: 1 Errors in 1 files\n" := by
  intro session words options settings document behaviour answer result
  have usable : Usable session [] .file words options settings ⟨false⟩ := usable_noColor
  exact ⟨usable, (run_hasSequence_iff usable rfl behaviour).1, by decide +kernel⟩

/-- A message has a sequence inside another, which is whole when the inner one is gone, and a link. -/
theorem run_leaves_sequences :
    let session : Session := { site := ⟨⟨[([text "work"], .directory)]⟩, text "/"⟩ }
    let words := [text "--no-color", text "--executable=/opt/server", text "work"]
    let options : Options :=
      { workspace := ⟨.none, [text "work"]⟩, color := .never, executable := text "/opt/server" }
    let settings : Settings :=
      { workspace := ⟨.none, [text "work"]⟩, color := .never, executable := text "/opt/server" }
    let message := text "\x1b\x1b[0m[31mred \x1b]8;;http://x\x1b\\link"
    let document : Diagnosis.Formed :=
      [(text "file:///a", [(⟨text "c", message, ⟨⟨0, 0⟩, ⟨none, 1⟩⟩, .error⟩, {})])]
    let behaviour : Behaviour := .exits (some (.file document.toValue.print)) 0 (.text []) (.text [])
    let stdout := (run session [] .file behaviour words).1.stdout
    Usable session [] .file words options settings ⟨false⟩ ∧
      (∃ before after, stdout = before ++ escapeChar :: after ∧ (Token.style? after).isSome) ∧
      ∃ before after, stdout = before ++ escapeChar :: after ∧ (Token.link? after).isSome := by
  intro session words options settings message document behaviour stdout
  have usable : Usable session [] .file words options settings ⟨false⟩ := usable_noColor
  have printed : stdout = text ("a  1 Error\n  1:1-1  [Error] c: \x1b[31mred " ++
    "\x1b]8;;http://x\x1b\\link\n\nTotal 1: 1 Errors in 1 files\n") := by
    decide +kernel
  rw [printed]
  exact ⟨usable, ⟨text "a  1 Error\n  1:1-1  [Error] c: ", _, rfl, rfl⟩,
    ⟨text "a  1 Error\n  1:1-1  [Error] c: \x1b[31mred ", _, rfl, rfl⟩⟩

end CommandLine

end CheckReport
