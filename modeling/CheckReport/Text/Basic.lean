/-!
# Text

Documents can hold surrogate code points that stand alone, which no `String` holds, so text is a
list of code points. Here are the operations that every other module uses: literals, splitting and
joining, trimming, code point order and decimal numerals.
-/

namespace CheckReport

/-- Code points, each a number below `0x110000`. -/
abbrev Text := List Nat

def text (s : String) : Text :=
  s.toList.map Char.toNat

namespace Text

/-- The code points that no character has, reserved for pairs of 16-bit units. -/
def isSurrogate (c : Nat) : Bool :=
  0xD800 ≤ c && c ≤ 0xDFFF

theorem isSurrogate_of_lt {c : Nat} (small : c < 0xD800) : isSurrogate c = false := by
  simp only [isSurrogate, Bool.and_eq_false_iff, decide_eq_false_iff_not]
  omega

def IsScalar (c : Nat) : Prop :=
  c < 0x110000 ∧ isSurrogate c = false

instance (c : Nat) : Decidable (IsScalar c) :=
  inferInstanceAs (Decidable (_ ∧ _))

def newline : Nat := 0x0A

def space : Nat := 0x20

def slash : Nat := 0x2F

/-- `n` spaces. -/
def spaces (n : Nat) : Text :=
  List.replicate n space

/-! ### Splitting and joining -/

/-- The pieces of a text between the occurrences of `sep`, one more than there are occurrences. -/
def split (sep : Nat) : Text → List Text
  | [] => [[]]
  | c :: s =>
    if c = sep then [] :: split sep s
    else match split sep s with
      | [] => [[c]]
      | piece :: pieces => (c :: piece) :: pieces

/-- The texts of a list with `sep` between neighbours. -/
def join (sep : Text) : List Text → Text
  | [] => []
  | [s] => s
  | s :: t :: rest => s ++ sep ++ join sep (t :: rest)

theorem split_ne_nil (sep : Nat) (s : Text) : split sep s ≠ [] := by
  cases s with
  | nil => simp [split]
  | cons c s =>
    unfold split
    split
    · simp
    · split <;> simp

/-- The lines of a text, which only line feeds end. -/
def lines (s : Text) : List Text :=
  split newline s

/-- A text without the characters at both ends that `blank` holds of. -/
def trim (blank : Nat → Bool) (s : Text) : Text :=
  ((s.dropWhile blank).reverse.dropWhile blank).reverse

/-- The text after `start`, if it starts with it. -/
def after? (start s : Text) : Option Text :=
  if start.isPrefixOf s then some (s.drop start.length) else none

/-! ### Order -/

/-- Code point order: the first difference decides, and a text comes before its continuations. -/
def le : Text → Text → Bool
  | [], _ => true
  | _ :: _, [] => false
  | a :: s, b :: t => a < b || (a == b && le s t)

theorem le_refl (s : Text) : le s s = true := by
  induction s with
  | nil => rfl
  | cons a s ih => simp [le, ih]

theorem le_total (s t : Text) : (le s t || le t s) = true := by
  induction s generalizing t with
  | nil => simp [le]
  | cons a s ih =>
    cases t with
    | nil => simp [le]
    | cons b t =>
      have h := ih t
      simp only [le, Bool.or_eq_true, Bool.and_eq_true, decide_eq_true_eq, beq_iff_eq] at *
      rcases Nat.lt_trichotomy a b with hab | rfl | hab
      · exact .inl (.inl hab)
      · exact h.imp (fun h => .inr ⟨rfl, h⟩) (fun h => .inr ⟨rfl, h⟩)
      · exact .inr (.inl hab)

theorem le_trans {s t u : Text} (hst : le s t = true) (htu : le t u = true) : le s u = true := by
  induction s generalizing t u with
  | nil => simp [le]
  | cons a s ih =>
    cases t with
    | nil => simp [le] at hst
    | cons b t =>
      cases u with
      | nil => simp [le] at htu
      | cons c u =>
        simp only [le, Bool.or_eq_true, Bool.and_eq_true, decide_eq_true_eq, beq_iff_eq] at *
        rcases hst with h | ⟨rfl, h⟩
        · rcases htu with h' | ⟨rfl, _⟩
          · exact .inl (Nat.lt_trans h h')
          · exact .inl h
        · rcases htu with h' | ⟨rfl, h'⟩
          · exact .inl h'
          · exact .inr ⟨rfl, ih h h'⟩

theorem le_antisymm {s t : Text} (hst : le s t = true) (hts : le t s = true) : s = t := by
  induction s generalizing t with
  | nil =>
    cases t with
    | nil => rfl
    | cons => simp [le] at hts
  | cons a s ih =>
    cases t with
    | nil => simp [le] at hst
    | cons b t =>
      simp only [le, Bool.or_eq_true, Bool.and_eq_true, decide_eq_true_eq, beq_iff_eq] at *
      rcases hst with h | ⟨rfl, h⟩
      · omega
      · rcases hts with h' | ⟨_, h'⟩
        · omega
        · rw [ih h h']

/-- The order is the lexicographic one of the code points. -/
theorem lt_of_le_of_ne {s t : Text} (le : le s t = true) (other : s ≠ t) : s < t := by
  induction s generalizing t with
  | nil =>
    cases t with
    | nil => exact absurd rfl other
    | cons => exact List.nil_lt_cons _ _
  | cons a s ih =>
    cases t with
    | nil => cases le
    | cons b t =>
      simp only [Text.le, Bool.or_eq_true, Bool.and_eq_true, decide_eq_true_eq, beq_iff_eq] at le
      rw [List.cons_lt_cons_iff]
      rcases le with less | ⟨rfl, later⟩
      · exact .inl less
      · exact .inr ⟨rfl, ih later fun same => other (same ▸ rfl)⟩

theorem not_lt_of_le {s t : Text} (le : le s t = true) : ¬t < s := by
  intro less
  have other : s ≠ t := by
    rintro rfl
    exact List.lt_irrefl _ less
  exact List.lt_asymm less (lt_of_le_of_ne le other)

/-! ### Numerals -/

/-- An ASCII digit. -/
def isDigit (c : Nat) : Bool :=
  0x30 ≤ c && c ≤ 0x39

/-- The greatest number of digits of the integers that are read and written. -/
def digitLimit : Nat := 4300

/-- The least number of more digits than are read and written. -/
def numberLimit : Nat :=
  Nat.pow 10 digitLimit

def ofNat (n : Nat) : Text :=
  (Nat.toDigits 10 n).map Char.toNat

def ofInt : Int → Text
  | .ofNat n => ofNat n
  | .negSucc n => text "-" ++ ofNat (n + 1)

/-- The value of a run of digits. -/
def digitsValue (s : Text) : Nat :=
  s.foldl (fun n c => 10 * n + (c - 0x30)) 0

/-- The number that a run of digits spells. -/
def number? (s : Text) : Option Nat :=
  if s ≠ [] ∧ s.all isDigit then some (digitsValue s) else none

def hexValue? (c : Nat) : Option Nat :=
  if isDigit c then some (c - 0x30)
  else if 0x61 ≤ c ∧ c ≤ 0x66 then some (c - 0x61 + 10)
  else if 0x41 ≤ c ∧ c ≤ 0x46 then some (c - 0x41 + 10)
  else none

/-- The lower-case hexadecimal digit of a number below 16. -/
def hexDigit (n : Nat) : Nat :=
  if n < 10 then 0x30 + n else 0x61 + (n - 10)

/-- The lowest `width` hexadecimal digits of a number. -/
def hex : Nat → Nat → Text
  | 0, _ => []
  | width + 1, n => hex width (n / 16) ++ [hexDigit (n % 16)]

/-- The sign for kelvins, the one character outside ASCII whose lower case is an ASCII letter. -/
def kelvin : Nat := 0x212A

/-- Letters in lower case where this is ASCII, all else unchanged. -/
def lower (s : Text) : Text :=
  s.map fun c => if 0x41 ≤ c ∧ c ≤ 0x5A then c + 0x20 else if c = kelvin then 0x6B else c

end Text

end CheckReport
