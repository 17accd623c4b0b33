import CheckReport.Text.Basic

/-!
# Shell words

A command line that a shell reads back as the same words: a word of safe characters stands as it
is, any other between single quotes, where a single quote closes them, stands between double
quotes and opens them again.
-/

namespace CheckReport.Text.Shell

def quoteMark : Nat := 0x27

def doubleQuote : Nat := 0x22

def isSafe (c : Nat) : Bool :=
  isDigit c || (0x41 ≤ c && c ≤ 0x5A) || (0x61 ≤ c && c ≤ 0x7A) || (text "_@%+=:,./-").contains c

/-- What stands between single quotes for a word. -/
def escape : Text → Text
  | [] => []
  | c :: s =>
    if c = quoteMark then
      quoteMark :: doubleQuote :: quoteMark :: doubleQuote :: quoteMark :: escape s
    else c :: escape s

def quote (word : Text) : Text :=
  if word ≠ [] ∧ word.all isSafe then word
  else quoteMark :: escape word ++ [quoteMark]

def joinWords (words : List Text) : Text :=
  join [space] (words.map quote)

/-!
### Splitting command lines

How a shell reads a command line as words: blanks part words, single quotes keep everything between
them, double quotes keep all but a backslash before a double quote or another backslash, and a
backslash outside quotes keeps the character after it. A quote that is not closed is a mistake.
-/

def backslash : Nat := 0x5C

def isSeparator (c : Nat) : Bool :=
  c == 0x20 || c == 0x09 || c == 0x0D || c == 0x0A

/-- Where a shell is in a command line, with the word that it reads, the last character first. -/
inductive State where
  | between
  | bare (word : Text)
  | escaped (word : Text)
  | single (word : Text)
  | double (word : Text)
  | doubleEscaped (word : Text)
  deriving DecidableEq, Repr

def finish (word : Text) (words : Option (List Text)) : Option (List Text) :=
  words.map (word.reverse :: ·)

/-- A character outside quotes, where `word` has been read. -/
def bareStep (word : Text) (c : Nat) : State :=
  if c = quoteMark then .single word
  else if c = doubleQuote then .double word
  else if c = backslash then .escaped word
  else .bare (c :: word)

def splitFrom : State → Text → Option (List Text)
  | .between, [] => some []
  | .bare word, [] => some [word.reverse]
  | _, [] => none
  | .between, c :: s => if isSeparator c then splitFrom .between s else splitFrom (bareStep [] c) s
  | .bare word, c :: s =>
    if isSeparator c then finish word (splitFrom .between s) else splitFrom (bareStep word c) s
  | .escaped word, c :: s => splitFrom (.bare (c :: word)) s
  | .single word, c :: s =>
    if c = quoteMark then splitFrom (.bare word) s else splitFrom (.single (c :: word)) s
  | .double word, c :: s =>
    if c = doubleQuote then splitFrom (.bare word) s
    else if c = backslash then splitFrom (.doubleEscaped word) s
    else splitFrom (.double (c :: word)) s
  | .doubleEscaped word, c :: s =>
    if c = doubleQuote ∨ c = backslash then splitFrom (.double (c :: word)) s
    else splitFrom (.double (c :: backslash :: word)) s

def splitWords (s : Text) : Option (List Text) :=
  splitFrom .between s

end CheckReport.Text.Shell
