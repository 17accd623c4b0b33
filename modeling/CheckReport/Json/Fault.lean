import CheckReport.Text.Basic

/-!
# Faults of JSON documents

What keeps a text from being a JSON document, and where.
-/

namespace CheckReport.Json

inductive Problem where
  | byteOrderMark
  | expectedValue
  | expectedName
  | expectedColon
  | expectedComma
  | extraData
  | unterminatedString
  | controlCharacter
  | badEscape
  | badUnicodeEscape
  deriving DecidableEq, Repr

def Problem.message : Problem → Text
  | .byteOrderMark => text "Unexpected UTF-8 BOM (decode using utf-8-sig)"
  | .expectedValue => text "Expecting value"
  | .expectedName => text "Expecting property name enclosed in double quotes"
  | .expectedColon => text "Expecting ':' delimiter"
  | .expectedComma => text "Expecting ',' delimiter"
  | .extraData => text "Extra data"
  | .unterminatedString => text "Unterminated string starting at"
  | .controlCharacter => text "Invalid control character at"
  | .badEscape => text "Invalid \\escape"
  | .badUnicodeEscape => text "Invalid \\uXXXX escape"

/-- A place of a document: an offset in characters, counted from 0, and the line and column,
counted from 1. -/
structure Place where
  line : Nat
  column : Nat
  offset : Nat
  deriving DecidableEq, Repr

/-- The place `offset` characters into a document. -/
def Place.of (document : Text) (offset : Nat) : Place :=
  let before := document.take offset
  let sinceBreak := before.reverse.takeWhile (· ≠ Text.newline)
  ⟨before.count Text.newline + 1, sinceBreak.length + 1, offset⟩

/-- Why a text is not read as a document. -/
inductive Fault where
  | malformed (problem : Problem) (place : Place)
  /-- More levels of nesting than are read. -/
  | tooDeep
  /-- An integer of more digits than are read. -/
  | tooManyDigits (digits : Nat)
  deriving DecidableEq, Repr

def Fault.message : Fault → Text
  | .malformed problem place =>
    problem.message ++ text ": line " ++ Text.ofNat place.line ++ text " column " ++
      Text.ofNat place.column ++ text " (char " ++ Text.ofNat place.offset ++ text ")"
  | .tooDeep => text "too many levels of nesting"
  | .tooManyDigits n =>
    text "Exceeds the limit (" ++ Text.ofNat Text.digitLimit ++
      text " digits) for integer string conversion: value has " ++ Text.ofNat n ++
      text " digits; use sys.set_int_max_str_digits() to increase the limit"

end CheckReport.Json
