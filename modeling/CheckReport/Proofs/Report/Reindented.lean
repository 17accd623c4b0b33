import CheckReport.Proofs.Report.Lines
import CheckReport.Proofs.Terminal.Token

/-!
# Re-indenting loses no text

The text of a message splits into the lines of the message, each as it is written and the later ones
indented (`lines_messageText`). So taking the indentation away gives them back, and where lines are
styled no style is on at the end of one (`messageText_shown`).
-/

namespace CheckReport

open Terminal (Line Fragment Painter escapeChar)

namespace Terminal

theorem Painter.line_append (painter : Painter) (l later : Line) :
    painter.line (l ++ later) = painter.line l ++ painter.line later :=
  List.flatMap_append

theorem Painter.line_singleton (painter : Painter) (f : Fragment) :
    painter.line [f] = painter.fragment f :=
  List.flatMap_singleton _ _

/-- Switching off is read as such after any text, whatever that leaves on. -/
theorem styles_append_switchOff (s : Text) : styles (s ++ switchOff) = styles s ++ [text "0"] := by
  have off : Token.scan switchOff = [.style (text "0")] := readsAs_switchOff.scan_eq
  have escape : switchOff = escapeChar :: 0x5B :: text "0m" := rfl
  unfold styles
  rw [escape, scan_append, ← escape, off, List.filterMap_append]
  rfl

end Terminal

namespace Report

open Text (newline)

/-! ### Lines as they are written -/

theorem fragment_message (painter : Painter) (severity : Severity) (s : Text) :
    painter.fragment { text := s, style := Section.messageStyle severity } =
      messageLine painter severity s := by
  unfold messageLine Section.messageStyle
  by_cases hint : severity = .hint
  · cases painter with
    | mk enabled =>
      cases enabled with
      | false => simp [Painter.fragment_disabled]
      | true =>
        have on : Terminal.switchOn Severity.hint.style.codes = text "\x1b[2;37m" := by decide
        have codes : Severity.hint.style.codes ≠ [] := by decide
        by_cases empty : s = []
        · simp [empty, hint, Painter.fragment, Painter.paint, Terminal.styled]
        · simp [empty, hint, Painter.fragment, Painter.paint, Terminal.styled, codes, on,
            Terminal.switchOff]
  · rw [if_neg hint, if_neg fun given => hint given.2.1]
    exact Painter.fragment_plain painter s

theorem messageLine_eq_nil_iff {painter : Painter} {severity : Severity} {s : Text} :
    messageLine painter severity s = [] ↔ s = [] := by
  unfold messageLine
  split
  · next styled => simp [styled.2.2]
  · exact Iff.rfl

theorem newline_not_mem_messageLine (painter : Painter) (severity : Severity) {s : Text}
    (free : newline ∉ s) : newline ∉ messageLine painter severity s := by
  have on : newline ∉ text "\x1b[2;37m" := by decide
  have off : newline ∉ text "\x1b[0m" := by decide
  unfold messageLine
  split
  · simp [free, on, off]
  · exact free

theorem messageLine_disabled (severity : Severity) : messageLine ⟨false⟩ severity = id :=
  funext fun _ => if_neg fun given => Bool.false_ne_true given.1

theorem newline_not_mem_of_mem_messageLines {message s : Text} (mem : s ∈ messageLines message) :
    newline ∉ s := by
  obtain ⟨line, found, rfl⟩ := List.mem_map.mp mem
  exact not_mem_of_showsLine ⟨0, rfl⟩ (Text.not_mem_of_mem_split found)

theorem messageLines_ne_nil (message : Text) : messageLines message ≠ [] :=
  mt List.map_eq_nil_iff.mp (Text.split_ne_nil newline message)

/-! ### Indentation -/

/-- Lines as they are written, the later ones that are not empty after blanks. -/
def indented (write : Text → Text) (column : Nat) : List Text → List Text
  | [] => []
  | first :: later =>
    write first :: later.map fun s => if s = [] then [] else Text.spaces column ++ write s

theorem line_continuation (painter : Painter) (severity : Severity) (column : Nat) (s : Text) :
    painter.line (continuation (Section.messageStyle severity) column s) =
      if s = [] then [] else Text.spaces column ++ messageLine painter severity s := by
  unfold continuation
  split
  · rfl
  · rw [Painter.line, List.flatMap_cons, List.flatMap_singleton, Painter.fragment_plain,
      fragment_message]

/-- What is written of a message after a lead, line by line. -/
theorem map_line_messageAfter (painter : Painter) (lead : Line) (severity : Severity) (column : Nat)
    (message : Text) :
    ∃ first later, indented (messageLine painter severity) column (messageLines message) =
        first :: later ∧
      (messageAfter lead (Section.messageStyle severity) column message).map painter.line =
        (painter.line lead ++ first) :: later := by
  obtain ⟨first, later, found⟩ := List.exists_cons_of_ne_nil (messageLines_ne_nil message)
  refine ⟨_, _, by rw [found, indented], ?_⟩
  simp only [messageAfter, found, List.map_cons, List.map_map, Painter.line_append,
    Painter.line_singleton, fragment_message, Function.comp_def, line_continuation]

/-- After a lead a message is written as on its own. -/
theorem page_messageAfter (painter : Painter) (lead : Line) (severity : Severity) (column : Nat)
    (message : Text) :
    painter.page (messageAfter lead (Section.messageStyle severity) column message) =
      painter.line lead ++ messageText painter severity column message := by
  obtain ⟨first, later, written, after⟩ := map_line_messageAfter painter lead severity column message
  obtain ⟨first', later', written', own⟩ := map_line_messageAfter painter [] severity column message
  obtain ⟨rfl, rfl⟩ := List.cons.inj (written.symm.trans written')
  rw [messageText, Painter.page, Painter.page, after, own, Text.join_append_cons]
  rfl

theorem newline_not_mem_indented {write : Text → Text} (column : Nat) {ls : List Text}
    (free : ∀ s ∈ ls, newline ∉ write s) : ∀ s ∈ indented write column ls, newline ∉ s := by
  cases ls with
  | nil => exact List.forall_mem_nil _
  | cons first later =>
    obtain ⟨first, later⟩ := List.forall_mem_cons.mp free
    refine List.forall_mem_cons.mpr ⟨first, List.forall_mem_map.mpr fun s mem => ?_⟩
    have blanks := List.forall_mem_ne'.mp (Text.common_ne_newline.spaces column)
    split
    · exact List.not_mem_nil
    · rw [List.mem_append, not_or]
      exact ⟨blanks, later s mem⟩

/-- The text of a message splits into the lines of the message, indented as they are written. -/
theorem lines_messageText (painter : Painter) (severity : Severity) (column : Nat) (message : Text) :
    Text.lines (messageText painter severity column message) =
      indented (messageLine painter severity) column (messageLines message) := by
  obtain ⟨first, later, written, own⟩ := map_line_messageAfter painter [] severity column message
  have free : ∀ s ∈ indented (messageLine painter severity) column (messageLines message),
      newline ∉ s := newline_not_mem_indented column fun _ mem =>
    newline_not_mem_messageLine painter severity (newline_not_mem_of_mem_messageLines mem)
  rw [written] at free ⊢
  rw [messageText, Painter.page, own]
  exact Text.split_join (List.cons_ne_nil first later) free

theorem unindented_indented {write : Text → Text} (empty : write [] = []) (column : Nat)
    (ls : List Text) : unindented column (indented write column ls) = ls.map write := by
  cases ls with
  | nil => rfl
  | cons first later =>
    have each (s : Text) :
        (if s = [] then [] else Text.spaces column ++ write s).drop column = write s := by
      split
      · next none => rw [none, empty, List.drop_nil]
      · exact List.drop_left' List.length_replicate
    simp only [indented, unindented, List.map_map, List.map_cons, Function.comp_def, each]

/-! ### Messages -/

/-- A text that has the lines of a message, indented as they are written, shows the message. -/
theorem reindented_of_lines_eq {write : Text → Text} (empty : ∀ s, write s = [] ↔ s = [])
    {column : Nat} {message shown : Text}
    (lines : Text.lines shown = indented write column (messageLines message)) :
    Reindented write column message shown := by
  obtain ⟨first, later, found⟩ := List.exists_cons_of_ne_nil (Text.split_ne_nil newline message)
  have whole : Text.lines message = first :: later := found
  rw [messageLines, whole, List.map_cons, indented] at lines
  constructor
  · rw [← Text.length_lines, lines, whole]
    simp
  · rw [lines, whole]
    rfl
  · intro i line here
    rw [whole, List.getElem?_cons_succ] at here
    refine ⟨_, by rw [lines, List.getElem?_cons_succ, List.getElem?_map, List.getElem?_map, here]; rfl, ?_⟩
    by_cases none : withoutReturn line = []
    · simp [none]
    · simp [none, empty]
  · have taken := unindented_indented ((empty []).mpr rfl) column (messageLines message)
    rw [messageLines, whole, List.map_cons, indented, ← lines] at taken
    rw [taken, whole]
    simp

theorem endsUnstyled_nil : EndsUnstyled [] := by
  have none : Terminal.styles [] = [] := by
    rw [Terminal.styles, Terminal.Token.scan]
    rfl
  intro codes last
  rw [none] at last
  cases last

theorem endsUnstyled_messageLine {painter : Painter} (enabled : painter.enabled = true)
    (before : Text) {s : Text} (some : s ≠ []) :
    EndsUnstyled (before ++ messageLine painter .hint s) := by
  have styled : messageLine painter .hint s = text "\x1b[2;37m" ++ s ++ Terminal.switchOff :=
    if_pos ⟨enabled, rfl, some⟩
  intro codes last
  rw [styled, ← List.append_assoc, Terminal.styles_append_switchOff, List.getLast?_concat] at last
  exact (Option.some.inj last).symm

theorem endsUnstyled_indented {painter : Painter} (enabled : painter.enabled = true) (column : Nat)
    (ls : List Text) : ∀ s ∈ indented (messageLine painter .hint) column ls, EndsUnstyled s := by
  cases ls with
  | nil => exact List.forall_mem_nil _
  | cons first later =>
    have written (before s : Text) :
        EndsUnstyled (if s = [] then [] else before ++ messageLine painter .hint s) := by
      split
      · exact endsUnstyled_nil
      · next some => exact endsUnstyled_messageLine enabled before some
    refine List.forall_mem_cons.mpr ⟨?_, List.forall_mem_map.mpr fun s _ => written _ s⟩
    by_cases none : first = []
    · rw [messageLine_eq_nil_iff.mpr none]
      exact endsUnstyled_nil
    · exact endsUnstyled_messageLine enabled [] none

/-- No text of a message is lost where it is re-indented: it has a line for each line of the message,
and without the indentation these are the lines of the message, each without a carriage return at its
end. A line of a hint that is painted is styled on its own. -/
theorem messageText_shown (painter : Painter) (severity : Severity) (column : Nat) (message : Text) :
    MessageShown painter severity column message where
  reindented := reindented_of_lines_eq (fun _ => messageLine_eq_nil_iff)
    (lines_messageText painter severity column message)
  unstyled enabled hint := by
    rw [lines_messageText, hint]
    exact endsUnstyled_indented enabled column _
  after lead := page_messageAfter painter lead severity column message

example : messageText ⟨false⟩ .hint 3 (text "a\r\n\r\n  b\n") = text "a\n\n     b\n" := by decide

end Report

end CheckReport
