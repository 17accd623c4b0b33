import CheckReport.Text.Utf8

/-!
# Percent escapes

`decode` takes away one layer of escapes. Escapes stand in ASCII text, so each run of ASCII is read
on its own: its escapes become bytes, and the bytes are decoded as UTF-8, with bytes that do not
decode kept as surrogates.
-/

namespace CheckReport.Text.Percent

open Utf8 (Bytes)

def percent : Nat := 0x25

def isAscii (c : Nat) : Bool :=
  c < 0x80

/-- The bytes of a run of ASCII, where `%` and two hexadecimal digits are one byte. -/
def bytes : Text → Bytes
  | [] => []
  | c :: s =>
    if c = percent then
      match s with
      | h :: l :: rest =>
        match hexValue? h, hexValue? l with
        | some high, some low => (16 * high + low) :: bytes rest
        | _, _ => c :: bytes (h :: l :: rest)
      | s => c :: bytes s
    else c :: bytes s

/-- A text without one layer of escapes. -/
def decode : Text → Text
  | [] => []
  | c :: s =>
    if isAscii c then
      Utf8.decodeEscaping (bytes (c :: s.takeWhile isAscii)) ++ decode (s.dropWhile isAscii)
    else c :: decode s
termination_by s => s.length
decreasing_by
  · exact Nat.lt_succ_of_le (List.dropWhile_sublist isAscii).length_le
  · exact Nat.lt_succ_self _

/-- An escaped text spells bytes: a percent sign with two hexadecimal digits spells the byte of that
value, any other ASCII character spells itself, and a character outside ASCII spells its UTF-8. -/
inductive Spells : Text → Bytes → Prop where
  | nil : Spells [] []
  | escaped {h l a b : Nat} {e : Text} {s : Bytes} (high : hexValue? h = some a)
      (low : hexValue? l = some b) (rest : Spells e s) :
      Spells (percent :: h :: l :: e) ((16 * a + b) :: s)
  | ascii {c : Nat} {e : Text} {s : Bytes} (small : isAscii c = true) (bare : c ≠ percent)
      (rest : Spells e s) : Spells (c :: e) (c :: s)
  | char {c : Nat} {e : Text} {s : Bytes} (scalar : IsScalar c) (large : isAscii c = false)
      (rest : Spells e s) : Spells (c :: e) (Utf8.encodeChar c ++ s)

end CheckReport.Text.Percent
