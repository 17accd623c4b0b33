import CheckReport.Terminal.Painter

/-!
# What a terminal reads

A terminal takes a text for characters and two kinds of sequences: those that switch styles, and
those that open a link or, without a target, close it. `visible` is what is left to see.
-/

namespace CheckReport.Terminal

inductive Token where
  | char (c : Nat)
  /-- Switches styles. -/
  | style (codes : Text)
  /-- Opens a link, or closes it if there is no target. -/
  | link (target : Text)
  deriving DecidableEq, Repr

namespace Token

def isCode (c : Nat) : Bool :=
  Text.isDigit c || c == 0x3B

/-- The sequence for styles at the front of a text, after its escape character. -/
def style? : Text → Option (Token × Text)
  | 0x5B :: s =>
    match s.dropWhile isCode with
    | 0x6D :: rest => some (.style (s.takeWhile isCode), rest)
    | _ => none
  | _ => none

/-- The sequence for links at the front of a text, after its escape character. -/
def link? (s : Text) : Option (Token × Text) :=
  match Text.after? (text "]8;;") s with
  | none => none
  | some s =>
    match s.dropWhile (· ≠ escapeChar) with
    | _ :: 0x5C :: rest => some (.link (s.takeWhile (· ≠ escapeChar)), rest)
    | _ => none

/-- The sequence at the front of a text, after its escape character. -/
def sequence? (s : Text) : Option (Token × Text) :=
  match style? s with
  | some found => some found
  | none => link? s

theorem length_style? {s rest : Text} {t : Token} (h : style? s = some (t, rest)) :
    rest.length < s.length := by
  unfold style? at h
  split at h
  · next s =>
    have hle := (List.dropWhile_sublist isCode (l := s)).length_le
    split at h
    · next r hd =>
      rw [hd, List.length_cons] at hle
      simp only [Option.some.injEq, Prod.mk.injEq] at h
      rw [← h.2, List.length_cons]
      omega
    · simp at h
  · simp at h

theorem length_link? {s rest : Text} {t : Token} (h : link? s = some (t, rest)) :
    rest.length < s.length := by
  unfold link? at h
  split at h
  · simp at h
  · next u hu =>
    have hu' : u.length ≤ s.length := by
      unfold Text.after? at hu
      split at hu
      · rw [← Option.some.inj hu, List.length_drop]
        omega
      · simp at hu
    have hle := (List.dropWhile_sublist (fun c => decide (c ≠ escapeChar)) (l := u)).length_le
    split at h
    · next r hd =>
      rw [hd, List.length_cons, List.length_cons] at hle
      simp only [Option.some.injEq, Prod.mk.injEq] at h
      rw [← h.2]
      omega
    · simp at h

theorem length_sequence? {s rest : Text} {t : Token} (h : sequence? s = some (t, rest)) :
    rest.length < s.length := by
  unfold sequence? at h
  split at h
  · next found hf => exact length_style? (Option.some.inj h ▸ hf)
  · exact length_link? h

/-- The tokens of a text. An escape character that starts no sequence is a character. -/
def scan (s : Text) : List Token :=
  match s with
  | [] => []
  | c :: s =>
    if c = escapeChar then
      match h : sequence? s with
      | some (t, rest) =>
        have := length_sequence? h
        t :: scan rest
      | none => .char c :: scan s
    else .char c :: scan s
termination_by s.length

def shown : Token → Option Nat
  | .char c => some c
  | _ => none

def codes? : Token → Option Text
  | .style codes => some codes
  | _ => none

def target? : Token → Option Text
  | .link target => some target
  | _ => none

end Token

def visible (s : Text) : Text :=
  (Token.scan s).filterMap Token.shown

/-- The codes of the styles that a text switches on and off, in their order. -/
def styles (s : Text) : List Text :=
  (Token.scan s).filterMap Token.codes?

/-- The targets of the links that a text opens and closes, in their order. -/
def targets (s : Text) : List Text :=
  (Token.scan s).filterMap Token.target?

/-!
### Sequences in a text

Whether a text has a sequence that a terminal obeys, and whether it leaves one when its control
sequences are removed.
-/

/-- Somewhere in a text a style is switched, or a link opened or closed. -/
def HasSequence (s : Text) : Prop :=
  ∃ before after, s = before ++ escapeChar :: after ∧ (Token.sequence? after).isSome

/-- A text leaves a sequence if an escape character in it that starts no control sequence starts one
for styles or links as soon as the control sequences after it are gone. -/
def LeavesSequence (s : Text) : Prop :=
  ∃ before after, s = before ++ escapeChar :: after ∧ afterControl? after = none ∧
    (Token.sequence? (withoutControls after)).isSome

/-!
### Links in a text

A link is opened with a target, and what is seen until it is closed is its text. Links do not nest: one
is closed before the next one is opened.
-/

structure Link where
  target : Text
  text : Text
  deriving DecidableEq, Repr

/-- The links in some tokens, after one was opened with what is seen of it so far, or after none. There
is no answer if a link is opened in another one, closed where none is open, or left open. -/
def Link.ofTokens? : Option Link → List Token → Option (List Link)
  | none, [] => some []
  | some _, [] => none
  | none, .link target :: ts => if target = [] then none else ofTokens? (some ⟨target, []⟩) ts
  | some link, .link target :: ts =>
    if target = [] then (ofTokens? none ts).map (link :: ·) else none
  | none, .char _ :: ts => ofTokens? none ts
  | some link, .char c :: ts => ofTokens? (some { link with text := link.text ++ [c] }) ts
  | opened, .style _ :: ts => ofTokens? opened ts

/-- The links of a text in their order, if each of them is closed before the next one. -/
def links? (s : Text) : Option (List Link) :=
  Link.ofTokens? none (Token.scan s)

end CheckReport.Terminal
