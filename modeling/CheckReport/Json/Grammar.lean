import CheckReport.Json.Reader

/-!
# What documents are made of

Which values stand at the front of a text, said as relations between the text, the value and the
rest, without a bound on the number of members. `Reaches` follows a reading into arrays and objects,
past their complete elements, and `LongInteger` and `opens` name what it can run into there.
-/

namespace CheckReport.Json

/-! ### Values -/

def opens (s : Text) : Bool :=
  s.head? = some 0x5B || s.head? = some 0x7B

section

variable {α : Type} (element : Text → α → Text → Prop)

/-- Elements with commas between them, up to the closing character. -/
inductive Series (close : Nat) : Text → List α → Text → Prop where
  | last {s rest after : Text} {a : α} (first : element s a rest)
      (closed : skipBlanks rest = close :: after) : Series close s [a] after
  | more {s rest next after : Text} {a : α} {as : List α} (first : element s a rest)
      (comma : skipBlanks rest = 0x2C :: next) (later : Series close (skipBlanks next) as after) :
      Series close s (a :: as) after

/-- Where elements start: the first one, and each after a complete one and a comma. -/
inductive ComesTo : Text → Text → Prop where
  | first {s : Text} : ComesTo s s
  | next {s rest next t : Text} {a : α} (complete : element s a rest)
      (comma : skipBlanks rest = 0x2C :: next) (later : ComesTo (skipBlanks next) t) : ComesTo s t

end

/-- A name, a colon and an item. -/
def Member (item : Text → Value → Text → Prop) (s : Text) (m : Text × Value) (rest : Text) : Prop :=
  ∃ t, memberName s = .ok (m.1, t) ∧ item t m.2 rest

inductive Nest (item : Text → Value → Text → Prop) : Text → Value → Text → Prop where
  | emptyArray {s rest : Text} (closed : skipBlanks s = 0x5D :: rest) :
      Nest item (0x5B :: s) (.arr []) rest
  | array {s rest : Text} {vs : List Value} (elements : Series item 0x5D (skipBlanks s) vs rest) :
      Nest item (0x5B :: s) (.arr vs) rest
  | emptyObject {s rest : Text} (closed : skipBlanks s = 0x7D :: rest) :
      Nest item (0x7B :: s) (.obj []) rest
  | object {s rest : Text} {ms : List (Text × Value)}
      (elements : Series (Member item) 0x7D (skipBlanks s) ms rest) :
      Nest item (0x7B :: s) (.obj (members ms)) rest

def Leaf (s : Text) (v : Value) (rest : Text) : Prop :=
  opens s = false ∧ leaf s = .ok (v, rest)

/-- A value in which arrays and objects nest to at most so many levels. -/
def Front : Nat → Text → Value → Text → Prop
  | 0 => Leaf
  | levels + 1 => fun s v rest => Leaf s v rest ∨ Nest (Front levels) s v rest

/-! ### Limits -/

/-- A value whose integers have no more digits than are read. -/
inductive Value.Bounded : Value → Prop where
  | null : Bounded .null
  | bool (b : Bool) : Bounded (.bool b)
  | int {n : Int} (small : n.natAbs < Text.numberLimit) : Bounded (.int n)
  | float (x : Binary64) : Bounded (.float x)
  | str (s : Text) : Bounded (.str s)
  | arr {vs : List Value} (items : ∀ v ∈ vs, Bounded v) : Bounded (.arr vs)
  | obj {ms : List (Text × Value)} (members : ∀ m ∈ ms, Bounded m.2) : Bounded (.obj ms)

/-- Where a reading of the value at the front of a text comes to: the value itself, and what it comes
to in the elements, with the levels that are left there. -/
inductive Reaches : Nat → Text → Nat → Text → Prop where
  | here {levels : Nat} {s : Text} : Reaches levels s levels s
  | item {levels left : Nat} {s t u : Text} (comes : ComesTo (Front levels) (skipBlanks s) t)
      (inside : Reaches levels t left u) : Reaches (levels + 1) (0x5B :: s) left u
  | member {levels left : Nat} {s t u w : Text} {name : Text}
      (comes : ComesTo (Member (Front levels)) (skipBlanks s) t)
      (named : memberName t = .ok (name, w)) (inside : Reaches levels w left u) :
      Reaches (levels + 1) (0x7B :: s) left u

/-- Whether a number goes on: with a digit, or a point or an exponent and a digit. -/
def GoesOn (s : Text) : Prop :=
  ∃ d rest, Text.isDigit d = true ∧
    (s = d :: rest ∨ s = 0x2E :: d :: rest ∨
      ∃ e sign, (e = 0x65 ∨ e = 0x45) ∧ (sign = [] ∨ sign = [0x2B] ∨ sign = [0x2D]) ∧
        s = e :: (sign ++ d :: rest))

/-- An integer of `n` digits at the front of a text, more than are read. -/
def LongInteger (n : Nat) (s : Text) : Prop :=
  Text.digitLimit < n ∧ ∃ sign digits rest, (sign = [] ∨ sign = [0x2D]) ∧
    (∀ d ∈ digits, Text.isDigit d = true) ∧ digits.head? ≠ some 0x30 ∧ digits.length = n ∧
    ¬GoesOn rest ∧ s = sign ++ digits ++ rest

variable [Platform]

/-- A place of a document where reading it comes to more levels than are read. -/
def TooDeep (document : Text) : Prop :=
  ∃ t, Reaches Platform.levels (skipBlanks document) 0 t ∧ opens t = true

/-- A place of a document where reading it comes to an integer of too many digits. -/
def TooLong (n : Nat) (document : Text) : Prop :=
  ∃ left t, Reaches Platform.levels (skipBlanks document) left t ∧ LongInteger n t

end CheckReport.Json
