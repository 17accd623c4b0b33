import CheckReport.Proofs.Report.Whole
import CheckReport.Proofs.Text.Characters

/-!
# Characters of reports

A report holds the paths, codes and messages as they are, and the URIs where it has links; all else
in it is printable ASCII. So a property of characters holds throughout a whole report just where it
holds throughout these texts (`holds_whole`).
-/

namespace CheckReport.Report

open Terminal (Line Fragment Painter Style)
open Text (Common)

variable {P : Nat → Prop} {painter : Painter}

theorem holds_plain {s : Text} : (Fragment.plain s).Holds P painter ↔ ∀ c ∈ s, P c := by
  simp [Fragment.Holds, Fragment.plain]

theorem holds_styled {s : Text} {style : Style} :
    Fragment.Holds P painter { text := s, style := style } ↔ ∀ c ∈ s, P c := by
  simp [Fragment.Holds]

theorem holds_link {s target : Text} {style : Style} :
    Fragment.Holds P painter { text := s, style := style, target := some target } ↔
      (∀ c ∈ s, P c) ∧ (painter.enabled = true → ∀ c ∈ target, P c) := by
  simp [Fragment.Holds]

theorem forall_mem_plain {l : Line} (holds : ∀ f ∈ l, f.Holds P painter) : ∀ c ∈ l.plain, P c := by
  intro c mem
  obtain ⟨f, inside, here⟩ := List.mem_flatMap.mp mem
  exact (holds f inside).1 c here

/-! ### Counts -/

theorem common_label (common : Common P) (severity : Severity) : ∀ c ∈ severity.label, P c := by
  apply common.literal
  cases severity <;> decide

theorem common_counted (common : Common P) (alwaysPlural : Bool) (n : Int) (severity : Severity) :
    ∀ c ∈ Tally.counted alwaysPlural n severity, P c := by
  have plural : ∀ c ∈ (if alwaysPlural ∨ n ≠ 1 then text "s" else []), P c := by
    split
    · exact common.literal (by decide)
    · exact List.forall_mem_nil _
  have blank : ∀ c ∈ text " ", P c := common.literal (by decide)
  simp only [Tally.counted, List.forall_mem_append]
  exact ⟨⟨⟨common.ofInt n, blank⟩, common_label common severity⟩, plural⟩

theorem holds_separated {separator : Text} (between : ∀ c ∈ separator, P c) {fs : List Fragment}
    (all : ∀ f ∈ fs, f.Holds P painter) : ∀ f ∈ Tally.separated separator fs, f.Holds P painter := by
  fun_induction Tally.separated separator fs with
  | case1 => exact all
  | case2 f => exact all
  | case3 f g rest ih =>
    obtain ⟨first, later⟩ := List.forall_mem_cons.mp all
    have following := List.forall_mem_cons.mpr ⟨holds_plain.mpr between, ih later⟩
    exact List.forall_mem_cons.mpr ⟨first, following⟩

theorem holds_tallyLine (common : Common P) (painter : Painter) (alwaysPlural : Bool)
    (tally : Tally) : ∀ f ∈ tally.line alwaysPlural, f.Holds P painter := by
  apply holds_separated (common.literal (by decide))
  intro f mem
  obtain ⟨severity, _, rfl⟩ := List.mem_map.mp mem
  exact holds_styled.mpr (common_counted common _ _ _)

theorem holds_summary (common : Common P) (painter : Painter) (stats : Stats) :
    ∀ f ∈ stats.summary, f.Holds P painter := by
  unfold Stats.summary
  split
  · exact List.forall_mem_singleton.mpr (holds_plain.mpr (common.literal (by decide)))
  · have total : ∀ c ∈ text "Total " ++ Text.ofInt stats.total, P c :=
      List.forall_mem_append.mpr ⟨common.literal (by decide), common.ofInt _⟩
    have files : ∀ c ∈ text " in " ++ Text.ofInt stats.files ++ text " files", P c := by
      simp only [List.forall_mem_append]
      exact ⟨⟨common.literal (by decide), common.ofInt _⟩, common.literal (by decide)⟩
    have colon : ∀ c ∈ text ": ", P c := common.literal (by decide)
    apply List.forall_mem_cons.mpr ⟨holds_styled.mpr total, ?_⟩
    apply List.forall_mem_cons.mpr ⟨holds_plain.mpr colon, ?_⟩
    apply List.forall_mem_append.mpr ⟨holds_tallyLine common painter true _, ?_⟩
    exact List.forall_mem_singleton.mpr (holds_plain.mpr files)

/-! ### Messages -/

theorem forall_mem_withoutReturn (ret : P 0x0D) {s : Text} :
    (∀ c ∈ withoutReturn s, P c) ↔ ∀ c ∈ s, P c := by
  unfold withoutReturn
  split
  · next last =>
    obtain ⟨t, rfl⟩ := List.getLast?_eq_some_iff.mp last
    rw [List.dropLast_concat, List.forall_mem_append, List.forall_mem_singleton]
    exact (and_iff_left ret).symm
  · exact Iff.rfl

theorem forall_mem_messageLines (feed : P Text.newline) (ret : P 0x0D) {message : Text} :
    (∀ s ∈ messageLines message, ∀ c ∈ s, P c) ↔ ∀ c ∈ message, P c := by
  simp only [messageLines, List.forall_mem_map, forall_mem_withoutReturn ret, Text.lines,
    Text.forall_mem_split feed]

theorem holds_continuation (common : Common P) {style : Style} {column : Nat} {s : Text} :
    (∀ f ∈ continuation style column s, f.Holds P painter) ↔ ∀ c ∈ s, P c := by
  unfold continuation
  split
  · next empty => simp [empty]
  · rw [List.forall_mem_cons, List.forall_mem_singleton, holds_plain, holds_styled]
    exact and_iff_right (common.spaces column)

theorem holds_messageAfter (common : Common P) (feed : P Text.newline) (ret : P 0x0D) {lead : Line}
    {style : Style} {column : Nat} {message : Text} :
    (∀ l ∈ messageAfter lead style column message, ∀ f ∈ l, f.Holds P painter) ↔
      (∀ f ∈ lead, f.Holds P painter) ∧ ∀ c ∈ message, P c := by
  rw [← forall_mem_messageLines feed ret]
  unfold messageAfter
  split
  · next none => simp [none]
  · next first rest found =>
    simp only [found, List.forall_mem_cons, List.forall_mem_append, List.forall_mem_map,
      holds_continuation common, holds_styled, List.not_mem_nil, false_implies, implies_true, true_and,
      and_assoc]

/-! ### Sections -/

theorem holds_header (common : Common P) {width : Nat} {s : Section} :
    (∀ f ∈ s.header width, f.Holds P painter) ↔
      (∀ c ∈ s.display, P c) ∧ (painter.enabled = true → ∀ c ∈ s.uri, P c) := by
  have padding : ∀ c ∈ Text.spaces (width - Text.cells s.display), P c := common.spaces _
  have gutter : ∀ c ∈ Section.gutter, P c := common.literal (by decide)
  have counts := holds_tallyLine common painter false s.tally
  simp only [Section.header, Section.padding, List.forall_mem_cons, holds_plain, holds_link]
  exact and_iff_left ⟨padding, gutter, counts⟩

theorem common_tag (common : Common P) (severity : Severity) : ∀ c ∈ Section.tag severity, P c := by
  have brackets : (∀ c ∈ text "[", P c) ∧ ∀ c ∈ text "]", P c :=
    ⟨common.literal (by decide), common.literal (by decide)⟩
  simp only [Section.tag, List.forall_mem_append]
  exact ⟨⟨brackets.1, common_label common severity⟩, brackets.2⟩

theorem holds_lead (common : Common P) {width : Nat} {e : Entry} :
    (∀ f ∈ Section.lead width e, f.Holds P painter) ↔
      ((∀ c ∈ e.location, P c) ∧ (painter.enabled = true → ∀ c ∈ e.target, P c)) ∧
        ∀ c ∈ e.diagnostic.code, P c := by
  have indent : ∀ c ∈ Section.indent, P c := common.literal (by decide)
  have padding : ∀ c ∈ Text.spaces (width - Text.cells e.location), P c := common.spaces _
  have gutter : ∀ c ∈ Section.gutter, P c := common.literal (by decide)
  have tag := common_tag common e.diagnostic.severity
  have blank : ∀ c ∈ text " ", P c := common.literal (by decide)
  have colon : ∀ c ∈ text ": ", P c := common.literal (by decide)
  simp only [Section.lead, Section.padding, List.forall_mem_cons, holds_plain, holds_link,
    holds_styled, List.not_mem_nil, false_implies, implies_true, and_true]
  constructor
  · intro given
    obtain ⟨_, location, _, _, _, _, code, _⟩ := given
    exact ⟨location, code⟩
  · intro given
    obtain ⟨location, code⟩ := given
    exact ⟨indent, location, padding, gutter, tag, blank, code, colon⟩

theorem common_startText (common : Common P) (p : Place) : ∀ c ∈ p.startText, P c := by
  have colon : ∀ c ∈ text ":", P c := common.literal (by decide)
  simp only [Place.startText, List.forall_mem_append]
  exact ⟨⟨common.ofNat _, colon⟩, common.ofNat _⟩

theorem common_stopText (common : Common P) (p : Place) : ∀ c ∈ p.stopText, P c := by
  have colon : ∀ c ∈ text ":", P c := common.literal (by decide)
  unfold Place.stopText
  split
  · exact common.ofNat _
  · simp only [List.forall_mem_append]
    exact ⟨⟨common.ofNat _, colon⟩, common.ofNat _⟩

theorem common_toText (common : Common P) (p : Place) : ∀ c ∈ p.toText, P c := by
  have hyphen : ∀ c ∈ text "-", P c := common.literal (by decide)
  simp only [Place.toText, List.forall_mem_append]
  exact ⟨⟨common_startText common p, hyphen⟩, common_stopText common p⟩

theorem forall_mem_target (common : Common P) {uri : Text} {d : Diagnostic} :
    (∀ c ∈ (Entry.whole uri d).target, P c) ↔ ∀ c ∈ uri, P c := by
  have mark : ∀ c ∈ text "#L", P c := common.literal (by decide)
  simp only [Entry.whole, List.forall_mem_append]
  exact ⟨fun given => given.1.1, fun given => ⟨⟨given, mark⟩, common_startText common _⟩⟩

theorem holds_entryLines (common : Common P) (feed : P Text.newline) (ret : P 0x0D) {width : Nat}
    {uri : Text} {d : Diagnostic} :
    (∀ l ∈ Section.entryLines width (Entry.whole uri d), ∀ f ∈ l, f.Holds P painter) ↔
      (painter.enabled = true → ∀ c ∈ uri, P c) ∧ (∀ c ∈ d.code, P c) ∧ ∀ c ∈ d.message, P c := by
  have location : ∀ c ∈ (Entry.whole uri d).location, P c := common_toText common _
  rw [Section.entryLines, holds_messageAfter common feed ret, holds_lead common,
    forall_mem_target common, and_iff_right location, and_assoc]
  exact Iff.rfl

theorem holds_wholeLines (common : Common P) (feed : P Text.newline) (ret : P 0x0D) {width : Nat}
    {s : Section} :
    (∀ l ∈ s.wholeLines width, ∀ f ∈ l, f.Holds P painter) ↔
      ((∀ c ∈ s.display, P c) ∧ (painter.enabled = true → ∀ c ∈ s.uri, P c)) ∧
        ∀ d ∈ s.diagnostics, (∀ c ∈ d.code, P c) ∧ ∀ c ∈ d.message, P c := by
  have entries : (∀ l ∈ s.entriesLines, ∀ f ∈ l, f.Holds P painter) ↔
      ∀ d ∈ s.diagnostics, (painter.enabled = true → ∀ c ∈ s.uri, P c) ∧
        (∀ c ∈ d.code, P c) ∧ ∀ c ∈ d.message, P c := by
    simp only [Section.entriesLines, Section.wholeEntries, List.forall_mem_flatMap,
      List.forall_mem_map, holds_entryLines common feed ret]
  rw [Section.wholeLines, List.forall_mem_cons, holds_header common, entries]
  constructor
  · intro given
    obtain ⟨⟨display, uri⟩, each⟩ := given
    exact ⟨⟨display, uri⟩, fun d mem => (each d mem).2⟩
  · intro given
    obtain ⟨⟨display, uri⟩, each⟩ := given
    exact ⟨⟨display, uri⟩, fun d mem => ⟨uri, each d mem⟩⟩

/-! ### Reports -/

theorem forall_mem_separateBlocks {Q : Line → Prop} (empty : Q []) {blocks : List (List Line)} :
    (∀ l ∈ separateBlocks blocks, Q l) ↔ ∀ block ∈ blocks, ∀ l ∈ block, Q l := by
  fun_induction separateBlocks blocks with
  | case1 => simp
  | case2 block => simp
  | case3 block next rest ih =>
    rw [List.forall_mem_append, List.forall_mem_cons, ih, List.forall_mem_cons]
    simp [empty]

theorem holds_closing (common : Common P) (painter : Painter) (stats : Stats) :
    ∀ l ∈ closing stats, ∀ f ∈ l, f.Holds P painter := by
  have summary := holds_summary common painter stats
  unfold closing
  split
  · exact List.forall_mem_singleton.mpr summary
  · exact List.forall_mem_cons.mpr ⟨List.forall_mem_nil _, List.forall_mem_singleton.mpr summary⟩

/-- A property of printable ASCII and line breaks holds throughout a whole report just where it
holds throughout the paths, codes and messages, and the URIs if there are links. -/
theorem holds_whole (common : Common P) (feed : P Text.newline) (ret : P 0x0D) {cwd : Text}
    {diagnosis : Diagnosis} :
    (∀ l ∈ (whole cwd diagnosis).lines, ∀ f ∈ l, f.Holds P painter) ↔
      ∀ file ∈ diagnosis.affected, ((∀ c ∈ Path.display cwd none (Path.ofUri file.1), P c) ∧
        (painter.enabled = true → ∀ c ∈ file.1, P c)) ∧
        ∀ d ∈ file.2, (∀ c ∈ d.code, P c) ∧ ∀ c ∈ d.message, P c := by
  have blocks (width : Nat) : (∀ s ∈ Section.ofDiagnosis cwd diagnosis,
      ∀ l ∈ s.wholeLines width, ∀ f ∈ l, f.Holds P painter) ↔ _ :=
    forall₂_congr fun _ _ => holds_wholeLines common feed ret
  have empty : ∀ f ∈ ([] : Line), f.Holds P painter := List.forall_mem_nil _
  rw [whole, List.forall_mem_append, forall_mem_separateBlocks empty, List.forall_mem_map, blocks]
  constructor
  · rintro ⟨sections, _⟩ file affected
    obtain ⟨shown, each⟩ := sections _ (mem_sections.mpr ⟨file, affected, rfl⟩)
    exact ⟨shown, fun d mem => each d (mem_diagnostics_ofFile.mpr mem)⟩
  · refine fun files => ⟨fun s mem => ?_, holds_closing common painter _⟩
    obtain ⟨file, affected, rfl⟩ := mem_sections.mp mem
    obtain ⟨shown, each⟩ := files file affected
    exact ⟨shown, fun d found => each d (mem_diagnostics_ofFile.mp found)⟩

end CheckReport.Report
