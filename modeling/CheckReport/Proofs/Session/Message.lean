import CheckReport.Proofs.Terminal.Notice
import CheckReport.Session

/-!
# Messages of failure read the same in either colour

What a message of failure reads as is decided by its text, whichever consoles were made before it and
with or without colour (`failed_reads`). A session tells it just so.
-/

namespace CheckReport.Terminal

theorem Message.content_notice (color : Bool) (message : Message) :
    Notice.content (message.notice color) = message.content := by
  cases message with
  | bare s => exact List.append_nil s
  | parts notice => rfl

/-- A message goes to standard error, through the console that goes with the colour. -/
theorem Consoles.fail_fst (consoles : Consoles) (color : Bool) (message : Message) :
    (consoles.fail color message).1 = { stderr := (message.notice color).render ⟨color⟩ } := by
  have given := getElem?_get consoles { color := color }
  simp only [fail, given]
  rfl

/-- A message told by the consoles that are there reads the same in either colour. -/
theorem Message.reads_fail {message : Message} (free : escapeChar ∉ message.content)
    (consoles : Consoles) : message.Reads fun color => (consoles.fail color message).1 := by
  have colored : escapeChar ∉ Notice.content (message.notice true) := by
    rwa [content_notice]
  have uncolored (color : Bool) :
      (message.notice color).render ⟨false⟩ = Notice.written message.content := by
    rw [Notice.render_disabled, content_notice]
  simp only [Consoles.fail_fst]
  constructor
  · exact fun _ => rfl
  · -- without colour a text without parts is not red: only what it says is the same
    exact (Notice.visible_render colored).trans ((uncolored true).trans (uncolored false).symm)
  · exact Notice.targets_render colored
  · exact uncolored false
  · exact fun verbatim => (uncolored false).trans (Notice.written_of_isVerbatim verbatim)

/-- A message of failure reads the same with and without colour, and as it is if it has neither tabs nor
characters that are left out. Messages before it change nothing. -/
theorem Message.failed_reads {message : Message} (free : escapeChar ∉ message.content)
    (calls : List (Bool × Message)) :
    let told color := ((Consoles.failAll [] calls).fail color message).1
    message.Reads told ∧ ∀ color, told color = (Consoles.fail [] color message).1 := by
  intro told
  refine ⟨Message.reads_fail free _, fun color => ?_⟩
  rw [Consoles.fail_fst]
  exact Consoles.fail_fst _ color message

theorem Message.failed_reads_lines :
    let red := Style.ofColor .red
    let message : Message := .parts
      [⟨text "Command failed: ", red⟩, ⟨text "lua '[b]\n", .ofColor .yellow⟩, ⟨[], red⟩,
        ⟨text "\n:x:", {}⟩]
    let calls : List (Bool × Message) := [(true, message), (false, .bare (text "a\tb"))]
    let told color := ((Consoles.failAll [] calls).fail color message).1
    escapeChar ∉ message.content ∧
      (message.Reads told ∧ ∀ color, told color = (Consoles.fail [] color message).1) ∧
      Notice.IsVerbatim message.content ∧
      (told false).stderr = text "Command failed: lua '[b]\n\n:x:\n" := by
  intro red message calls told
  have free : escapeChar ∉ message.content := by decide
  have verbatim : Notice.IsVerbatim message.content := by decide
  have read := Message.failed_reads free calls
  exact ⟨free, read, verbatim, read.1.verbatim verbatim⟩

end CheckReport.Terminal

namespace CheckReport.Session

open Terminal (Message Notice)

/-- A session tells a notice as the message that has its parts. -/
theorem tell_eq_fail (session : Session) (notice : Notice) :
    let (output, consoles) := session.consoles.fail session.painter.enabled (.parts notice)
    session.tell notice = (output.stderr, { session with consoles := consoles }) := by
  have told := session.tell_fst notice
  dsimp only
  rw [Terminal.Consoles.fail_fst]
  exact Prod.ext told rfl

/-- A session tells a message without parts as such a message, which is red where there is colour. -/
theorem tell_failure_fst (session : Session) (s : Text) :
    (session.tell (Notice.failure s)).1 =
      (session.consoles.fail session.painter.enabled (.bare s)).1.stderr := by
  rw [session.tell_fst, Terminal.Consoles.fail_fst]
  cases session.painter with
  | mk enabled =>
    cases enabled with
    | true => rfl
    | false =>
      rw [Notice.render_disabled]
      exact (Notice.render_disabled [⟨s, {}⟩]).symm

end CheckReport.Session
