import CheckReport.Text.Basic

/-!
# UTF-8

Bytes are numbers below 256. `step` reads one character or names the fault at the front of the
bytes; the three decoders differ only in what they do with a fault: `decode` stops, `decodeLossy`
drops the bytes at fault, and `decodeEscaping` keeps each of them as a surrogate above `0xDC00`,
from which `encodeEscaping` takes it back.
-/

namespace CheckReport.Text.Utf8

abbrev Bytes := List Nat

/-- Why bytes are not UTF-8. -/
inductive Reason where
  | invalidStart
  | invalidContinuation
  | unexpectedEnd
  deriving DecidableEq, Repr

/-- A sequence that cannot be decoded: its bytes, up to the one that breaks it, and its offset. -/
structure Fault where
  offset : Nat
  bytes : Bytes
  reason : Reason
  deriving DecidableEq, Repr

inductive Step where
  | done
  | char (c : Nat) (rest : Bytes)
  | fault (bad : Bytes) (reason : Reason) (rest : Bytes)
  deriving DecidableEq, Repr

def isContinuation (b : Nat) : Bool :=
  0x80 ≤ b && b ≤ 0xBF

/-- The second bytes that may follow a lead byte of three or four. Others would spell a surrogate,
a code point beyond the last, or one that a shorter sequence spells. -/
def isSecond (lead b : Nat) : Bool :=
  if lead = 0xE0 then 0xA0 ≤ b && b ≤ 0xBF
  else if lead = 0xED then 0x80 ≤ b && b ≤ 0x9F
  else if lead = 0xF0 then 0x90 ≤ b && b ≤ 0xBF
  else if lead = 0xF4 then 0x80 ≤ b && b ≤ 0x8F
  else isContinuation b

/-- Sequences of two bytes, after the lead. -/
def stepTwo (a : Nat) : Bytes → Step
  | [] => .fault [a] .unexpectedEnd []
  | b :: s =>
    if isContinuation b then .char ((a - 0xC0) * 0x40 + (b - 0x80)) s
    else .fault [a] .invalidContinuation (b :: s)

/-- Sequences of three bytes, after the lead. -/
def stepThree (a : Nat) : Bytes → Step
  | [] => .fault [a] .unexpectedEnd []
  | b :: s =>
    if isSecond a b then
      match s with
      | [] => .fault [a, b] .unexpectedEnd []
      | c :: s =>
        if isContinuation c then
          .char (((a - 0xE0) * 0x40 + (b - 0x80)) * 0x40 + (c - 0x80)) s
        else .fault [a, b] .invalidContinuation (c :: s)
    else .fault [a] .invalidContinuation (b :: s)

/-- Sequences of four bytes, after the lead. -/
def stepFour (a : Nat) : Bytes → Step
  | [] => .fault [a] .unexpectedEnd []
  | b :: s =>
    if isSecond a b then
      match s with
      | [] => .fault [a, b] .unexpectedEnd []
      | c :: s =>
        if isContinuation c then
          match s with
          | [] => .fault [a, b, c] .unexpectedEnd []
          | d :: s =>
            if isContinuation d then
              .char ((((a - 0xF0) * 0x40 + (b - 0x80)) * 0x40 + (c - 0x80)) * 0x40 + (d - 0x80)) s
            else .fault [a, b, c] .invalidContinuation (d :: s)
        else .fault [a, b] .invalidContinuation (c :: s)
    else .fault [a] .invalidContinuation (b :: s)

/-- The first character of some bytes, or the fault in its place. -/
def step : Bytes → Step
  | [] => .done
  | a :: s =>
    if a < 0x80 then .char a s
    else if 0xC2 ≤ a ∧ a ≤ 0xDF then stepTwo a s
    else if 0xE0 ≤ a ∧ a ≤ 0xEF then stepThree a s
    else if 0xF0 ≤ a ∧ a ≤ 0xF4 then stepFour a s
    else .fault [a] .invalidStart s

def Step.rest : Step → Bytes
  | .done => []
  | .char _ s => s
  | .fault _ _ s => s

theorem length_rest_step_lt {a : Nat} {s : Bytes} :
    (step (a :: s)).rest.length < (a :: s).length := by
  unfold step stepTwo stepThree stepFour
  repeat' split
  all_goals simp_all [Step.rest] <;> omega

theorem length_lt_of_step_char {s rest : Bytes} {c : Nat} (h : step s = .char c rest) :
    rest.length < s.length := by
  cases s with
  | nil => simp [step] at h
  | cons a s => simpa [h, Step.rest] using length_rest_step_lt (a := a) (s := s)

theorem length_lt_of_step_fault {s bad rest : Bytes} {r : Reason} (h : step s = .fault bad r rest) :
    rest.length < s.length := by
  cases s with
  | nil => simp [step] at h
  | cons a s => simpa [h, Step.rest] using length_rest_step_lt (a := a) (s := s)

/-! ### Faults -/

def Reason.message : Reason → Text
  | .invalidStart => text "invalid start byte"
  | .invalidContinuation => text "invalid continuation byte"
  | .unexpectedEnd => text "unexpected end of data"

/-- The bytes at fault, by value if there is one and by position, and why they do not decode. -/
def Fault.message (fault : Fault) : Text :=
  let first := Text.ofNat fault.offset
  text "'utf-8' codec can't decode " ++
    (match fault.bytes with
    | [b] => text "byte 0x" ++ hex 2 b ++ text " in position " ++ first
    | bytes =>
      text "bytes in position " ++ first ++ text "-" ++
        Text.ofNat (fault.offset + bytes.length - 1)) ++
    text ": " ++ fault.reason.message

/-! ### Decoding -/

/-- The text that bytes spell, `offset` bytes into the whole; the first fault stops it. -/
def decodeFrom (offset : Nat) (s : Bytes) : Except Fault Text :=
  match h : step s with
  | .done => .ok []
  | .char c rest =>
    have := length_lt_of_step_char h
    match decodeFrom (offset + (s.length - rest.length)) rest with
    | .ok t => .ok (c :: t)
    | .error fault => .error fault
  | .fault bad reason _ => .error ⟨offset, bad, reason⟩
termination_by s.length

/-- The text that bytes spell, or their first fault. -/
def decode (s : Bytes) : Except Fault Text :=
  decodeFrom 0 s

/-- The text that bytes spell, without the bytes at fault. -/
def decodeLossy (s : Bytes) : Text :=
  match h : step s with
  | .done => []
  | .char c rest =>
    have := length_lt_of_step_char h
    c :: decodeLossy rest
  | .fault _ _ rest =>
    have := length_lt_of_step_fault h
    decodeLossy rest
termination_by s.length

/-- The text that bytes spell, with each byte at fault as a surrogate. -/
def decodeEscaping (s : Bytes) : Text :=
  match h : step s with
  | .done => []
  | .char c rest =>
    have := length_lt_of_step_char h
    c :: decodeEscaping rest
  | .fault bad _ rest =>
    have := length_lt_of_step_fault h
    bad.map (0xDC00 + ·) ++ decodeEscaping rest
termination_by s.length

/-! ### Encoding -/

/-- The bytes of a code point; a surrogate takes three, as its neighbours do. -/
def encodeChar (c : Nat) : Bytes :=
  if c < 0x80 then [c]
  else if c < 0x800 then [0xC0 + c / 0x40, 0x80 + c % 0x40]
  else if c < 0x10000 then [0xE0 + c / 0x1000, 0x80 + c / 0x40 % 0x40, 0x80 + c % 0x40]
  else [0xF0 + c / 0x40000, 0x80 + c / 0x1000 % 0x40, 0x80 + c / 0x40 % 0x40, 0x80 + c % 0x40]

def encode (s : Text) : Bytes :=
  s.flatMap encodeChar

/-- A text without surrogates, for which UTF-8 has no bytes. -/
def Encodable (s : Text) : Prop :=
  ∀ c ∈ s, isSurrogate c = false

instance (s : Text) : Decidable (Encodable s) :=
  inferInstanceAs (Decidable (∀ c ∈ s, isSurrogate c = false))

/-- Surrogates that stand where a text is written as UTF-8, which has no bytes for them. -/
structure Unencodable where
  offset : Nat
  surrogates : Text
  deriving DecidableEq, Repr

def unencodable? (s : Text) : Option Unencodable :=
  let before := s.takeWhile fun c => !isSurrogate c
  let rest := s.dropWhile fun c => !isSurrogate c
  if rest = [] then none else some ⟨before.length, rest.takeWhile isSurrogate⟩

def Unencodable.message (fault : Unencodable) : Text :=
  let first := Text.ofNat fault.offset
  text "'utf-8' codec can't encode " ++
    (match fault.surrogates with
    | [c] => text "character '\\u" ++ hex 4 c ++ text "' in position " ++ first
    | cs =>
      text "characters in position " ++ first ++ text "-" ++
        Text.ofNat (fault.offset + cs.length - 1)) ++
    text ": surrogates not allowed"

def size (s : Text) : Nat :=
  s.foldr (fun c n => (encodeChar c).length + n) 0

/-- A character that can be given to the system: no surrogate but those that stand for single bytes. -/
def isGivable (c : Nat) : Bool :=
  !isSurrogate c || (0xDC80 ≤ c && c ≤ 0xDCFF)

/-- The bytes of a text in which the surrogates above `0xDC80` stand for single bytes. -/
def encodeEscaping (s : Text) : Bytes :=
  s.flatMap fun c => if 0xDC80 ≤ c ∧ c ≤ 0xDCFF then [c - 0xDC00] else encodeChar c

/-!
### Texts that stand for bytes

A text can stand for any bytes: where the UTF-8 of a character starts, for this character, and each
other byte for the surrogate that is as far above `0xDC00`.
-/

/-- No character is spelled by the front of some bytes. -/
def Stray (s : Bytes) : Prop :=
  ∀ c, IsScalar c → ¬encodeChar c <+: s

inductive StandsFor : Text → Bytes → Prop where
  | nil : StandsFor [] []
  | char {c : Nat} {t : Text} {s : Bytes} (scalar : IsScalar c) (rest : StandsFor t s) :
      StandsFor (c :: t) (encodeChar c ++ s)
  | stray {b : Nat} {t : Text} {s : Bytes} (none : Stray (b :: s)) (rest : StandsFor t s) :
      StandsFor ((0xDC00 + b) :: t) (b :: s)

end CheckReport.Text.Utf8
