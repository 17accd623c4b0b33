import CheckReport.Json.Fault
import CheckReport.Json.Value
import CheckReport.Platform

/-!
# Reading JSON

Each reader takes a text and returns what stands at its front with the rest of the text, or stops.
A stop counts the characters left from the fault on, which `read` turns into a place of the
document. Arrays and objects may nest as deep as the platform has it, and `value` recurses on the
levels that are left. No array or object has more members than the document has characters, which
bounds the recursion on members.
-/

namespace CheckReport.Json

inductive Halt where
  | malformed (problem : Problem) (left : Nat)
  | tooDeep
  | tooManyDigits (digits : Nat)
  deriving DecidableEq, Repr

def Halt.fault (document : Text) : Halt → Fault
  | .malformed problem left => .malformed problem (Place.of document (document.length - left))
  | .tooDeep => .tooDeep
  | .tooManyDigits n => .tooManyDigits n

/-- What stands at the front of a text, and the rest. -/
abbrev Read (α : Type) := Except Halt (α × Text)

/-- A stop at the front of `s`. -/
def stop {α : Type} (problem : Problem) (s : Text) : Except Halt α :=
  .error (.malformed problem s.length)

/-- The white space between tokens. -/
def isBlank (c : Nat) : Bool :=
  c == 0x20 || c == 0x09 || c == 0x0A || c == 0x0D

def skipBlanks (s : Text) : Text :=
  s.dropWhile isBlank

/-! ### Strings -/

/-- The character that a single letter stands for after a backslash. -/
def escaped? (c : Nat) : Option Nat :=
  if c = 0x22 ∨ c = 0x5C ∨ c = 0x2F then some c
  else if c = 0x62 then some 0x08
  else if c = 0x66 then some 0x0C
  else if c = 0x6E then some 0x0A
  else if c = 0x72 then some 0x0D
  else if c = 0x74 then some 0x09
  else none

/-- The number that four hexadecimal digits spell. A fifth character has to follow them, if only
the closing quote. -/
def unit? : Text → Option (Nat × Text)
  | a :: b :: c :: d :: e :: s => do
    let a ← Text.hexValue? a
    let b ← Text.hexValue? b
    let c ← Text.hexValue? c
    let d ← Text.hexValue? d
    return (((a * 16 + b) * 16 + c) * 16 + d, e :: s)
  | _ => none

def isHighSurrogate (c : Nat) : Bool :=
  0xD800 ≤ c && c ≤ 0xDBFF

def isLowSurrogate (c : Nat) : Bool :=
  0xDC00 ≤ c && c ≤ 0xDFFF

def pair (high low : Nat) : Nat :=
  0x10000 + (high - 0xD800) * 0x400 + (low - 0xDC00)

/-- The low surrogate that an escape at the front of a text spells. -/
def lowUnit? : Text → Option (Nat × Text)
  | 0x5C :: 0x75 :: s =>
    match unit? s with
    | some (low, rest) => if isLowSurrogate low then some (low, rest) else none
    | none => none
  | _ => none

/-- The character after `\u`, whose digits start `s`. Two escapes that spell a pair are one. -/
def unicodeEscape (s : Text) : Read Nat :=
  match unit? s with
  | none => .error (.malformed .badUnicodeEscape (s.length + 1))
  | some (c, rest) =>
    if isHighSurrogate c then
      match lowUnit? rest with
      | some (low, rest) => .ok (pair c low, rest)
      | none => .ok (c, rest)
    else .ok (c, rest)

/-- The character after a backslash, in the string at the front of `opening`. -/
def escape (opening : Text) : Text → Read Nat
  | [] => stop .unterminatedString opening
  | c :: s =>
    if c = 0x75 then unicodeEscape s
    else match escaped? c with
      | some d => .ok (d, s)
      | none => .error (.malformed .badEscape (s.length + 2))

theorem length_unit? {s rest : Text} {c : Nat} (h : unit? s = some (c, rest)) :
    rest.length < s.length := by
  match s with
  | a :: b :: c :: d :: e :: s =>
    simp only [unit?, Option.bind_eq_bind, Option.bind_eq_some_iff, Option.pure_def,
      Option.some.injEq, Prod.mk.injEq] at h
    obtain ⟨_, _, _, _, _, _, _, _, _, rfl⟩ := h
    simp only [List.length_cons]
    omega
  | [] | [_] | [_, _] | [_, _, _] | [_, _, _, _] => simp [unit?] at h

theorem length_lowUnit? {s rest : Text} {c : Nat} (h : lowUnit? s = some (c, rest)) :
    rest.length < s.length := by
  unfold lowUnit? at h
  split at h
  · split at h
    · split at h
      · next hu _ =>
        simp only [Option.some.injEq, Prod.mk.injEq] at h
        obtain ⟨rfl, rfl⟩ := h
        have := length_unit? hu
        simp only [List.length_cons]
        omega
      · simp at h
    · simp at h
  · simp at h

theorem length_unicodeEscape {s rest : Text} {c : Nat} (h : unicodeEscape s = .ok (c, rest)) :
    rest.length < s.length := by
  unfold unicodeEscape at h
  split at h
  · simp at h
  · next hu =>
    have := length_unit? hu
    split at h
    · split at h
      · next hl =>
        have := length_lowUnit? hl
        simp only [Except.ok.injEq, Prod.mk.injEq] at h
        obtain ⟨rfl, rfl⟩ := h
        omega
      · simp only [Except.ok.injEq, Prod.mk.injEq] at h
        obtain ⟨rfl, rfl⟩ := h
        omega
    · simp only [Except.ok.injEq, Prod.mk.injEq] at h
      obtain ⟨rfl, rfl⟩ := h
      omega

theorem length_escape {opening s rest : Text} {c : Nat}
    (h : escape opening s = .ok (c, rest)) : rest.length < s.length := by
  cases s with
  | nil => simp [escape, stop] at h
  | cons a s =>
    by_cases ha : a = 0x75
    · rw [escape, if_pos ha] at h
      exact Nat.lt_succ_of_lt (length_unicodeEscape h)
    · rw [escape, if_neg ha] at h
      split at h
      · simp only [Except.ok.injEq, Prod.mk.injEq] at h
        obtain ⟨_, rfl⟩ := h
        exact Nat.lt_succ_self _
      · simp at h

/-- The characters of the string at the front of `opening`, from `s` on up to its closing quote. -/
def string (opening s : Text) : Read Text :=
  match s with
  | [] => stop .unterminatedString opening
  | c :: s =>
    if c = 0x22 then .ok ([], s)
    else if c = 0x5C then
      match h : escape opening s with
      | .error e => .error e
      | .ok (d, rest) =>
        have := length_escape h
        match string opening rest with
        | .error e => .error e
        | .ok (t, rest) => .ok (d :: t, rest)
    else if c < 0x20 then stop .controlCharacter (c :: s)
    else
      match string opening s with
      | .error e => .error e
      | .ok (t, rest) => .ok (c :: t, rest)
termination_by s.length

/-! ### Numbers and words -/

/-- Whether a minus stands at the front of a text, and the text after it. -/
def minus : Text → Bool × Text
  | 0x2D :: s => (true, s)
  | s => (false, s)

/-- The same for exponents, which may have a plus instead. -/
def exponentSign : Text → Bool × Text
  | 0x2B :: s => (false, s)
  | s => minus s

/-- The digits of an integer whose first digit is `d`. After a zero there are no others. -/
def integerDigits (d : Nat) (s : Text) : Text × Text :=
  if d = 0x30 then ([d], s) else (d :: s.takeWhile Text.isDigit, s.dropWhile Text.isDigit)

/-- The digits after a point, if there are any. -/
def fraction : Text → Text × Text
  | 0x2E :: s =>
    if s.head?.any Text.isDigit then (s.takeWhile Text.isDigit, s.dropWhile Text.isDigit)
    else ([], 0x2E :: s)
  | s => ([], s)

/-- A number with a minus, if it has one. -/
def signed (negative : Bool) (n : Int) : Int :=
  if negative then -n else n

/-- The exponent after a number, if there is one. -/
def exponent? : Text → Option (Int × Text)
  | c :: s =>
    let sign := exponentSign s
    if (c = 0x65 ∨ c = 0x45) ∧ sign.2.head?.any Text.isDigit then
      let n := Text.digitsValue (sign.2.takeWhile Text.isDigit)
      some (signed sign.1 n, sign.2.dropWhile Text.isDigit)
    else none
  | [] => none

/-- A number of the given sign whose first digit is `d`: an integer, or a floating point number if
a fraction or an exponent follows. -/
def unsigned (negative : Bool) (d : Nat) (s : Text) : Read Value :=
  let whole := integerDigits d s
  let places := fraction whole.2
  match exponent? places.2 with
  | some (e, rest) =>
    let digits := Text.digitsValue (whole.1 ++ places.1)
    .ok (.float (Binary64.ofDecimal negative digits (e - places.1.length)), rest)
  | none =>
    if places.1 ≠ [] then
      let digits := Text.digitsValue (whole.1 ++ places.1)
      .ok (.float (Binary64.ofDecimal negative digits (-places.1.length)), places.2)
    else if Text.digitLimit < whole.1.length then .error (.tooManyDigits whole.1.length)
    else .ok (.int (signed negative (Text.digitsValue whole.1)), places.2)

def number (s : Text) : Read Value :=
  let sign := minus s
  match sign.2 with
  | d :: t => if Text.isDigit d then unsigned sign.1 d t else stop .expectedValue s
  | [] => stop .expectedValue s

def words : List (Text × Value) := [
  (text "null", .null), (text "true", .bool true), (text "false", .bool false),
  (text "NaN", .float (.nan false)), (text "Infinity", .float (.infinite false)),
  (text "-Infinity", .float (.infinite true))]

def scalar (s : Text) : Read Value :=
  match words.findSome? fun (word, v) => (Text.after? word s).map (v, ·) with
  | some read => .ok read
  | none => number s

/-! ### Arrays and objects -/

/-- Elements with commas between them, at least one, up to the closing character. `n` bounds their
number. -/
def series {α : Type} (close : Nat) (element : Text → Read α) : Nat → Text → Read (List α)
  | 0, s => stop .expectedComma s
  | n + 1, s =>
    match element s with
    | .error e => .error e
    | .ok (a, rest) =>
      match skipBlanks rest with
      | [] => stop .expectedComma []
      | c :: rest =>
        if c = close then .ok ([a], rest)
        else if c = 0x2C then
          match series close element n (skipBlanks rest) with
          | .error e => .error e
          | .ok (as, rest) => .ok (a :: as, rest)
        else stop .expectedComma (c :: rest)

def memberName : Text → Read Text
  | 0x22 :: s =>
    match string (0x22 :: s) s with
    | .error e => .error e
    | .ok (name, rest) =>
      match skipBlanks rest with
      | 0x3A :: rest => .ok (name, skipBlanks rest)
      | rest => stop .expectedColon rest
  | s => stop .expectedName s

/-- A member of an object, whose value is read as an item. -/
def member (item : Text → Read Value) (s : Text) : Read (Text × Value) :=
  match memberName s with
  | .error e => .error e
  | .ok (name, rest) =>
    match item rest with
    | .error e => .error e
    | .ok (v, rest) => .ok ((name, v), rest)

/-- An array of at most `n` items after its opening bracket. -/
def array (item : Text → Read Value) (n : Nat) (s : Text) : Read Value :=
  match skipBlanks s with
  | 0x5D :: rest => .ok (.arr [], rest)
  | s =>
    match series 0x5D item n s with
    | .error e => .error e
    | .ok (vs, rest) => .ok (.arr vs, rest)

/-- An object of at most `n` members after its opening brace. -/
def object (item : Text → Read Value) (n : Nat) (s : Text) : Read Value :=
  match skipBlanks s with
  | 0x7D :: rest => .ok (.obj [], rest)
  | s =>
    match series 0x7D (member item) n s with
    | .error e => .error e
    | .ok (ms, rest) => .ok (.obj (members ms), rest)

def leaf : Text → Read Value
  | 0x22 :: s =>
    match string (0x22 :: s) s with
    | .error e => .error e
    | .ok (t, rest) => .ok (.str t, rest)
  | s => scalar s

/-- A value at the front of a text, in which arrays and objects nest to at most `levels` and have at
most `n` members. -/
def value (n : Nat) : Nat → Text → Read Value
  | 0, s =>
    match s with
    | 0x5B :: _ => .error .tooDeep
    | 0x7B :: _ => .error .tooDeep
    | s => leaf s
  | levels + 1, s =>
    match s with
    | 0x5B :: s => array (value n levels) n s
    | 0x7B :: s => object (value n levels) n s
    | s => leaf s

variable [Platform]

/-- A value that a whole text holds, between blanks. -/
def document (s : Text) : Except Halt Value :=
  if s.head? = some 0xFEFF then stop .byteOrderMark s
  else
    match value s.length Platform.levels (skipBlanks s) with
    | .error e => .error e
    | .ok (v, rest) =>
      match skipBlanks rest with
      | [] => .ok v
      | rest => stop .extraData rest

def read (s : Text) : Except Fault Value :=
  match document s with
  | .ok v => .ok v
  | .error e => .error (e.fault s)

end CheckReport.Json
