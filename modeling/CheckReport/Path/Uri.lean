import CheckReport.Text.Percent

/-!
# Paths of URIs

The language server names files by URIs: `file://`, a path with escapes, and in front of a drive
letter or an absolute path one more slash. `ofUri` gives the path and takes away one layer of
escapes. What does not start like this is only unescaped.
-/

namespace CheckReport.Path

open Text.Percent (percent)
open Text.Utf8 (Bytes)

def isLetter (c : Nat) : Bool :=
  (0x41 ≤ c && c ≤ 0x5A) || (0x61 ≤ c && c ≤ 0x7A)

/-- Whether a text starts with a slash, or with a drive and a slash. Of a drive the letter or the
colon may be missing. -/
def startsAtRoot (s : Text) : Bool :=
  let s := match s with
    | c :: rest => if isLetter c then rest else s
    | [] => []
  let s := match s with
    | 0x3A :: rest => rest
    | s => s
  s.head? = some Text.slash

def scheme : Text := text "file://"

/-- What a URI says after its scheme; other text unchanged. -/
def withoutScheme (uri : Text) : Text :=
  match Text.after? scheme uri with
  | none => uri
  | some s =>
    match s with
    | 0x2F :: rest => if startsAtRoot rest then rest else s
    | s => if startsAtRoot s then s else uri

def ofUri (uri : Text) : Text :=
  Text.Percent.decode (withoutScheme uri)

/-!
### Escaped paths

How a path is written in a URI: slashes as they are, percent signs as escapes, and every other
character as it is or as the escapes of its UTF-8. On some paths `ofUri` takes the front of what is
written for a drive; these are told apart here.
-/

/-- Bytes and their escapes, each a percent sign and two hexadecimal digits. -/
inductive Escapes : Bytes → Text → Prop where
  | nil : Escapes [] []
  | cons {h l a b : Nat} {s : Bytes} {e : Text} (high : Text.hexValue? h = some a)
      (low : Text.hexValue? l = some b) (rest : Escapes s e) :
      Escapes ((16 * a + b) :: s) (percent :: h :: l :: e)

inductive Escaped : Text → Text → Prop where
  | nil : Escaped [] []
  | bare {c : Nat} {p e : Text} (other : c ≠ percent) (rest : Escaped p e) :
      Escaped (c :: p) (c :: e)
  | escape {c : Nat} {w p e : Text} (scalar : Text.IsScalar c) (other : c ≠ Text.slash)
      (written : Escapes (Text.Utf8.encodeChar c) w) (rest : Escaped p e) :
      Escaped (c :: p) (w ++ e)

/-- A path from the root on, with one slash in front. -/
def IsRooted (p : Text) : Prop :=
  ∃ q, p = Text.slash :: q ∧ q.head? ≠ some Text.slash

/-- Whether a written path starts with a drive: a slash, a letter, a colon and a slash. -/
def StartsWithDrive (e : Text) : Prop :=
  ∃ c rest, isLetter c = true ∧ e = Text.slash :: c :: 0x3A :: Text.slash :: rest

/-- Whether the first name in a written path is a letter or a colon, and a slash follows it. -/
def StartsWithMark (e : Text) : Prop :=
  ∃ c rest, (isLetter c = true ∨ c = 0x3A) ∧ e = Text.slash :: c :: Text.slash :: rest

end CheckReport.Path
