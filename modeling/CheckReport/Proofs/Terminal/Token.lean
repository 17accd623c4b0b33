import CheckReport.Proofs.Text.Characters
import CheckReport.Terminal.Fragment
import CheckReport.Terminal.Token

/-!
# What a terminal reads of painted text

Text without escape characters is read as its characters, and each sequence that a painter writes as
one token, whatever comes after; a style sequence is so after any text (`scan_append`). So of a page
that is painted is seen what the page says (`visible_page`).
-/

namespace CheckReport.Terminal

open Token (scan sequence?)

/-- A text is read as some tokens, whatever comes after it. -/
def ReadsAs (s : Text) (ts : List Token) : Prop :=
  ∀ rest, scan (s ++ rest) = ts ++ scan rest

namespace ReadsAs

theorem nil : ReadsAs [] [] :=
  fun _ => rfl

theorem append {s t : Text} {ts us : List Token} (first : ReadsAs s ts) (second : ReadsAs t us) :
    ReadsAs (s ++ t) (ts ++ us) := by
  intro rest
  rw [List.append_assoc, first, second, List.append_assoc]

theorem flatMap {α : Type} {xs : List α} {f : α → Text} {g : α → List Token}
    (each : ∀ x ∈ xs, ReadsAs (f x) (g x)) : ReadsAs (xs.flatMap f) (xs.flatMap g) := by
  induction xs with
  | nil => exact nil
  | cons x xs ih =>
    obtain ⟨first, later⟩ := List.forall_mem_cons.mp each
    rw [List.flatMap_cons, List.flatMap_cons]
    exact first.append (ih later)

theorem scan_eq {s : Text} {ts : List Token} (read : ReadsAs s ts) : scan s = ts := by
  have whole := read []
  rw [Token.scan.eq_def []] at whole
  simpa using whole

end ReadsAs

/-! ### Characters -/

theorem scan_cons_of_ne {c : Nat} (other : c ≠ escapeChar) (s : Text) :
    scan (c :: s) = .char c :: scan s := by
  rw [scan, if_neg other]

/-- A text without escape characters is read character by character. -/
theorem readsAs_of_free {s : Text} (free : ∀ c ∈ s, c ≠ escapeChar) :
    ReadsAs s (s.map .char) := by
  induction s with
  | nil => exact .nil
  | cons c s ih =>
    obtain ⟨other, free⟩ := List.forall_mem_cons.mp free
    intro rest
    rw [List.cons_append, scan_cons_of_ne other, ih free, List.map_cons, List.cons_append]

/-! ### Sequences -/

theorem scan_escape {s rest : Text} {t : Token} (found : sequence? s = some (t, rest)) :
    scan (escapeChar :: s) = t :: scan rest := by
  rw [scan, if_pos rfl]
  split
  · next t' rest' found' =>
    rw [found] at found'
    cases found'
    rfl
  · next none =>
    rw [found] at none
    cases none

theorem takeWhile_append_cons {p : Nat → Bool} {s : Text} (all : ∀ c ∈ s, p c = true) {d : Nat}
    (stop : p d = false) (rest : Text) :
    (s ++ d :: rest).takeWhile p = s ∧ (s ++ d :: rest).dropWhile p = d :: rest := by
  have ends : ¬p d = true := Bool.eq_false_iff.mp stop
  constructor
  · rw [List.takeWhile_append_of_pos all, List.takeWhile_cons_of_neg ends, List.append_nil]
  · rw [List.dropWhile_append_of_pos all, List.dropWhile_cons_of_neg ends]

theorem style?_bracket {codes : Text} (all : ∀ c ∈ codes, Token.isCode c = true) (rest : Text) :
    Token.style? (0x5B :: (codes ++ 0x6D :: rest)) = some (.style codes, rest) := by
  have ⟨taken, left⟩ := takeWhile_append_cons all (d := 0x6D) rfl rest
  simp only [Token.style?, left, taken]

theorem link?_bracket {target : Text} (free : ∀ c ∈ target, c ≠ escapeChar) (rest : Text) :
    Token.link? (text "]8;;" ++ (target ++ escapeChar :: 0x5C :: rest)) =
      some (.link target, rest) := by
  have all : ∀ c ∈ target, decide (c ≠ escapeChar) = true := fun c mem => decide_eq_true (free c mem)
  have ⟨taken, left⟩ := takeWhile_append_cons all (d := escapeChar) rfl (0x5C :: rest)
  have start : (text "]8;;").isPrefixOf (text "]8;;" ++ (target ++ escapeChar :: 0x5C :: rest)) = true :=
    List.isPrefixOf_iff_prefix.mpr (List.prefix_append _ _)
  rw [Token.link?, Text.after?, if_pos start, List.drop_left]
  simp only [left, taken]

theorem readsAs_style {codes : Text} (all : ∀ c ∈ codes, Token.isCode c = true) :
    ReadsAs (text "\x1b[" ++ codes ++ text "m") [.style codes] := by
  intro rest
  have found : sequence? (0x5B :: (codes ++ 0x6D :: rest)) = some (.style codes, rest) := by
    rw [sequence?, style?_bracket all]
  have read := scan_escape found
  simpa [text, escapeChar] using read

theorem readsAs_openLink {target : Text} (free : ∀ c ∈ target, c ≠ escapeChar) :
    ReadsAs (openLink target) [.link target] := by
  intro rest
  have found : sequence? (text "]8;;" ++ (target ++ escapeChar :: 0x5C :: rest)) =
      some (.link target, rest) := by
    -- it starts with another bracket than a style
    have noStyle : Token.style? (text "]8;;" ++ (target ++ escapeChar :: 0x5C :: rest)) = none := rfl
    rw [sequence?, noStyle]
    exact link?_bracket free rest
  have read := scan_escape found
  simpa [openLink, text, escapeChar] using read

/-! ### Text before a sequence -/

theorem dropWhile_append_stop {p : Nat → Bool} {d : Nat} (stop : p d = false) (s t : Text) :
    (s ++ d :: t).dropWhile p = s.dropWhile p ++ d :: t := by
  rw [List.dropWhile_append, List.dropWhile_cons_of_neg (Bool.eq_false_iff.mp stop)]
  cases s.dropWhile p <;> rfl

theorem takeWhile_append_stop {p : Nat → Bool} {d : Nat} (stop : p d = false) (s t : Text) :
    (s ++ d :: t).takeWhile p = s.takeWhile p := by
  rw [List.takeWhile_append, List.takeWhile_cons_of_neg (Bool.eq_false_iff.mp stop), List.append_nil]
  split
  · next all => rw [List.takeWhile_prefix p |>.eq_of_length all]
  · rfl

/-- Whether a text has some start is settled before any character that the start does not have. -/
theorem after?_append {start : Text} {c : Nat} (free : c ∉ start) (s t : Text) :
    Text.after? start (s ++ c :: t) = (Text.after? start s).map (· ++ c :: t) := by
  have same : start.isPrefixOf (s ++ c :: t) = start.isPrefixOf s := by
    rw [Bool.eq_iff_iff, List.isPrefixOf_iff_prefix, List.isPrefixOf_iff_prefix]
    refine ⟨fun here => ?_, fun here => here.trans (List.prefix_append s _)⟩
    have upTo : s ++ [c] <+: s ++ c :: t := ⟨t, by simp⟩
    rcases List.prefix_or_prefix_of_prefix here upTo with within | beyond
    · rcases List.prefix_concat_iff.mp within with rfl | within
      · exact absurd (List.mem_append_right s (List.mem_singleton_self c)) free
      · exact within
    · exact absurd (beyond.subset (List.mem_append_right s (List.mem_singleton_self c))) free
  unfold Text.after?
  rw [same]
  split
  · next here =>
    rw [List.drop_append_of_le_length (List.isPrefixOf_iff_prefix.mp here).length_le]
    rfl
  · rfl

/-- A style sequence does not depend on what follows a character that is in none. -/
theorem style?_append {c : Nat} (other : Token.isCode c = false ∧ c ≠ 0x5B ∧ c ≠ 0x6D) (s t : Text) :
    Token.style? (s ++ c :: t) =
      (Token.style? s).map fun found => (found.1, found.2 ++ c :: t) := by
  obtain ⟨stop, noBracket, noMark⟩ := other
  have none {d : Nat} (noBracket : d ≠ 0x5B) (u : Text) : Token.style? (d :: u) = none := by
    unfold Token.style?
    split
    · next same => exact absurd (List.cons.inj same).1 noBracket
    · rfl
  cases s with
  | nil => exact none noBracket t
  | cons d s =>
    by_cases bracket : d = 0x5B
    · subst bracket
      rw [List.cons_append, Token.style?, Token.style?, dropWhile_append_stop stop,
        takeWhile_append_stop stop]
      cases s.dropWhile Token.isCode with
      | nil => simp [noMark]
      | cons d rest =>
        by_cases mark : d = 0x6D
        · subst mark
          rfl
        · simp [mark]
    · rw [List.cons_append, none bracket, none bracket]
      rfl

/-- A link sequence ends in a backslash, so not in the escape character before a bracket. -/
theorem link?_append (s t : Text) :
    Token.link? (s ++ escapeChar :: 0x5B :: t) =
      (Token.link? s).map fun found => (found.1, found.2 ++ escapeChar :: 0x5B :: t) := by
  unfold Token.link?
  rw [after?_append (by decide)]
  cases Text.after? (text "]8;;") s with
  | none => rfl
  | some u =>
    have stop : decide (escapeChar ≠ escapeChar) = false := by decide
    dsimp only [Option.map_some]
    rw [dropWhile_append_stop stop, takeWhile_append_stop stop]
    cases u.dropWhile (· ≠ escapeChar) with
    | nil => rfl
    | cons e rest =>
      cases rest with
      | nil => rfl
      | cons d rest =>
        by_cases mark : d = 0x5C
        · subst mark
          rfl
        · simp [mark]

theorem sequence?_append (s t : Text) :
    sequence? (s ++ escapeChar :: 0x5B :: t) =
      (sequence? s).map fun found => (found.1, found.2 ++ escapeChar :: 0x5B :: t) := by
  unfold sequence?
  rw [style?_append (by decide), link?_append]
  cases Token.style? s <;> rfl

theorem scan_stray {s : Text} (stray : sequence? s = none) :
    scan (escapeChar :: s) = .char escapeChar :: scan s := by
  rw [scan, if_pos rfl]
  split
  · next found =>
    rw [stray] at found
    cases found
  · rfl

/-- What is read before an escape character with a bracket does not depend on what comes from there
on: no sequence reaches over the two. -/
theorem scan_append (s t : Text) :
    scan (s ++ escapeChar :: 0x5B :: t) = scan s ++ scan (escapeChar :: 0x5B :: t) := by
  fun_induction scan s with
  | case1 => rfl
  | case2 s token rest found _ ih =>
    have extended := sequence?_append s t
    rw [found] at extended
    rw [List.cons_append, scan_escape extended, ih, List.cons_append]
  | case3 s stray ih =>
    have extended := sequence?_append s t
    rw [stray] at extended
    rw [List.cons_append, scan_stray extended, ih, List.cons_append]
  | case4 c s other ih =>
    rw [List.cons_append, scan_cons_of_ne other, ih, List.cons_append]

/-! ### Painted text -/

theorem isCode_of_codes (codes : List Nat) :
    ∀ c ∈ Text.join (text ";") (codes.map Text.ofNat), Token.isCode c = true := by
  have semicolon : ∀ c ∈ text ";", Token.isCode c = true := by decide
  rw [Text.forall_mem_join semicolon]
  intro s mem c found
  obtain ⟨n, _, rfl⟩ := List.mem_map.mp mem
  rw [Token.isCode, Text.isDigit_of_mem_ofNat found, Bool.true_or]

theorem readsAs_switchOn (codes : List Nat) :
    ReadsAs (switchOn codes) [.style (Text.join (text ";") (codes.map Text.ofNat))] :=
  readsAs_style (isCode_of_codes codes)

theorem readsAs_switchOff : ReadsAs switchOff [.style (text "0")] := by
  have all : ∀ c ∈ text "0", Token.isCode c = true := by decide
  exact readsAs_style all

/-- What is read of a text in a style. -/
def Token.ofStyled (style : Style) (s : Text) : List Token :=
  if s = [] ∨ style.codes = [] then s.map .char
  else [.style (Text.join (text ";") (style.codes.map Text.ofNat))] ++ s.map .char ++
    [.style (text "0")]

/-- What is read of a fragment that an enabled painter writes. -/
def Fragment.tokens (f : Fragment) : List Token :=
  match f.target with
  | none => Token.ofStyled f.style f.text
  | some target => [.link target] ++ Token.ofStyled f.style f.text ++ [.link []]

theorem readsAs_styled (style : Style) {s : Text} (free : ∀ c ∈ s, c ≠ escapeChar) :
    ReadsAs (styled style s) (Token.ofStyled style s) := by
  unfold styled Token.ofStyled
  split
  · exact readsAs_of_free free
  · exact ((readsAs_switchOn _).append (readsAs_of_free free)).append readsAs_switchOff

theorem readsAs_fragment {f : Fragment} (free : f.Holds (· ≠ escapeChar) ⟨true⟩) :
    ReadsAs (Painter.fragment ⟨true⟩ f) f.tokens := by
  obtain ⟨plain, target⟩ := free
  have inside := readsAs_styled f.style plain
  unfold Painter.fragment Fragment.tokens
  cases h : f.target with
  | none => exact inside
  | some uri =>
    have opened := readsAs_openLink (target rfl uri h)
    have closed : ReadsAs (openLink []) [.link []] := readsAs_openLink (List.forall_mem_nil _)
    exact (opened.append inside).append closed

theorem readsAs_line {l : Line} (free : ∀ f ∈ l, f.Holds (· ≠ escapeChar) ⟨true⟩) :
    ReadsAs (Painter.line ⟨true⟩ l) (l.flatMap Fragment.tokens) :=
  ReadsAs.flatMap fun f mem => readsAs_fragment (free f mem)

/-- What is read of lines with line feeds between them. -/
def pageTokens : List Line → List Token
  | [] => []
  | [l] => l.flatMap Fragment.tokens
  | l :: next :: rest => l.flatMap Fragment.tokens ++ [.char Text.newline] ++ pageTokens (next :: rest)

theorem readsAs_page {ls : List Line} (free : ∀ l ∈ ls, ∀ f ∈ l, f.Holds (· ≠ escapeChar) ⟨true⟩) :
    ReadsAs (Painter.page ⟨true⟩ ls) (pageTokens ls) := by
  fun_induction pageTokens ls with
  | case1 => exact .nil
  | case2 l => exact readsAs_line (free l List.mem_cons_self)
  | case3 l next rest ih =>
    obtain ⟨first, later⟩ := List.forall_mem_cons.mp free
    have feed := readsAs_of_free (s := [Text.newline]) (by decide)
    exact ((readsAs_line first).append feed).append (ih later)

/-! ### What is seen -/

theorem shown_map_char (s : Text) : (s.map Token.char).filterMap Token.shown = s := by
  induction s with
  | nil => rfl
  | cons c s ih => simpa [Token.shown] using ih

theorem shown_ofStyled (style : Style) (s : Text) :
    (Token.ofStyled style s).filterMap Token.shown = s := by
  unfold Token.ofStyled
  split
  · exact shown_map_char s
  · simp only [List.filterMap_append, shown_map_char]
    exact List.append_nil s

theorem shown_fragment (f : Fragment) : f.tokens.filterMap Token.shown = f.text := by
  unfold Fragment.tokens
  split
  · exact shown_ofStyled f.style f.text
  · simp only [List.filterMap_append, shown_ofStyled]
    exact List.append_nil f.text

theorem shown_line (l : Line) : (l.flatMap Fragment.tokens).filterMap Token.shown = l.plain := by
  rw [List.filterMap_flatMap]
  exact congrArg (List.flatMap · l) (funext shown_fragment)

theorem shown_pageTokens (ls : List Line) :
    (pageTokens ls).filterMap Token.shown = Painter.page ⟨false⟩ ls := by
  unfold Painter.page
  fun_induction pageTokens ls with
  | case1 => rfl
  | case2 l => exact (shown_line l).trans (Painter.line_disabled l).symm
  | case3 l next rest ih =>
    rw [List.filterMap_append, List.filterMap_append, shown_line, ih, ← Painter.line_disabled l]
    rfl

/-- What is seen of a painted page is the page without paint. -/
theorem visible_page {ls : List Line}
    (free : ∀ l ∈ ls, ∀ f ∈ l, f.Holds (· ≠ escapeChar) ⟨true⟩) :
    visible (Painter.page ⟨true⟩ ls) = Painter.page ⟨false⟩ ls := by
  rw [visible, (readsAs_page free).scan_eq, shown_pageTokens]

end CheckReport.Terminal
