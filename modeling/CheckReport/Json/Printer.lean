import Mathlib.Data.List.Forall2
import CheckReport.Json.Reader

/-!
# Printing JSON

A value as a document in ASCII: strings with short escapes where there are some, all else outside
printable ASCII by 16-bit units, two of them for a character beyond these.
-/

namespace CheckReport.Json

def unitEscape (n : Nat) : Text :=
  text "\\u" ++ Text.hex 4 n

def unitEscapes (c : Nat) : Text :=
  if c < 0x10000 then unitEscape c
  else unitEscape (0xD800 + (c - 0x10000) / 0x400) ++ unitEscape (0xDC00 + (c - 0x10000) % 0x400)

def printChar (c : Nat) : Text :=
  if c = 0x22 then text "\\\""
  else if c = 0x5C then text "\\\\"
  else if c = 0x0A then text "\\n"
  else if c = 0x0D then text "\\r"
  else if c = 0x09 then text "\\t"
  else if c = 0x0C then text "\\f"
  else if c = 0x08 then text "\\b"
  else if 0x20 ≤ c ∧ c < 0x7F then [c]
  else unitEscapes c

def printText (s : Text) : Text :=
  0x22 :: s.flatMap printChar ++ [0x22]

/-- A number; those that are not finite have words of their own. -/
def printNumber : Binary64 → Text
  | .nan _ => text "NaN"
  | .infinite negative => (if negative then text "-" else []) ++ text "Infinity"
  | x => x.display

namespace Value

mutual

def print : Value → Text
  | .null => text "null"
  | .bool true => text "true"
  | .bool false => text "false"
  | .int n => Text.ofInt n
  | .float x => printNumber x
  | .str s => printText s
  | .arr items => text "[" ++ Text.join (text ", ") (printItems items) ++ text "]"
  | .obj members => text "\x7b" ++ Text.join (text ", ") (printMembers members) ++ text "\x7d"

def printItems : List Value → List Text
  | [] => []
  | v :: vs => print v :: printItems vs

def printMembers : List (Text × Value) → List Text
  | [] => []
  | (name, v) :: ms => (printText name ++ text ": " ++ print v) :: printMembers ms

end

end Value

/-!
### Values read back

What a printed value is read as again. Surrogates that make a pair become one character, and of
members with one name the last counts. Of a floating point number only this much is said, that there
is one again.
-/

/-- A text whose surrogates that make a pair are one character. -/
def paired : Text → Text
  | [] => []
  | [c] => [c]
  | high :: low :: s =>
    if isHighSurrogate high ∧ isLowSurrogate low then pair high low :: paired s
    else high :: paired (low :: s)

/-- A value that can be printed and read: its arrays and objects nest to at most so many levels, and
its integers have no more digits than are written. -/
inductive Value.Fits : Nat → Value → Prop where
  | null {levels : Nat} : Fits levels .null
  | bool {levels : Nat} (b : Bool) : Fits levels (.bool b)
  | int {levels : Nat} {n : Int} (small : n.natAbs < Text.numberLimit) : Fits levels (.int n)
  | float {levels : Nat} (x : Binary64) : Fits levels (.float x)
  | str {levels : Nat} {s : Text} (points : ∀ c ∈ s, c < 0x110000) : Fits levels (.str s)
  | arr {levels : Nat} {vs : List Value} (items : ∀ v ∈ vs, Fits levels v) :
      Fits (levels + 1) (.arr vs)
  | obj {levels : Nat} {ms : List (Text × Value)} (points : ∀ m ∈ ms, ∀ c ∈ m.1, c < 0x110000)
      (items : ∀ m ∈ ms, Fits levels m.2) : Fits (levels + 1) (.obj ms)

/-- A member whose value is read back as the relation says. -/
inductive EchoMember (item : Value → Value → Prop) : Text × Value → Text × Value → Prop where
  | mk {name : Text} {v w : Value} (value : item v w) : EchoMember item (name, v) (paired name, w)

/-- What a value is read back as. -/
inductive Echo : Value → Value → Prop where
  | null : Echo .null .null
  | bool (b : Bool) : Echo (.bool b) (.bool b)
  | int (n : Int) : Echo (.int n) (.int n)
  | float (x y : Binary64) : Echo (.float x) (.float y)
  | str (s : Text) : Echo (.str s) (.str (paired s))
  | arr {vs ws : List Value} (items : List.Forall₂ Echo vs ws) : Echo (.arr vs) (.arr ws)
  | obj {ms listed : List (Text × Value)}
      (items : List.Forall₂ (EchoMember Echo) ms listed) :
      Echo (.obj ms) (.obj (members listed))

end CheckReport.Json
