import CheckReport.Terminal.Painter
import CheckReport.Text.Printable

/-!
# When to use colour

A mode asks for colour, against it, or leaves it to the terminal. A set `NO_COLOR` variable wins
over a mode that asks for colour.
-/

namespace CheckReport.Terminal

inductive ColorMode where
  | auto
  | always
  | never
  deriving DecidableEq, Repr

namespace ColorMode

def all : List ColorMode :=
  [.auto, .always, .never]

def name : ColorMode → Text
  | .auto => text "auto"
  | .always => text "always"
  | .never => text "never"

def ofName? (s : Text) : Option ColorMode :=
  all.find? fun mode => mode.name = s

def ofBool (b : Bool) : ColorMode :=
  if b then .always else .never

end ColorMode

structure UnknownMode where
  name : Text
  deriving DecidableEq, Repr

def UnknownMode.message (fault : UnknownMode) : Text :=
  Text.Quoted.quote fault.name ++ text " is not a valid ColorMode"

/-- A mode as it is asked for: by its name, or by a truth value for always or never. -/
inductive ModeChoice where
  | name (s : Text)
  | flag (on : Bool)
  deriving DecidableEq, Repr

def ModeChoice.mode : ModeChoice → Except UnknownMode ColorMode
  | .flag on => .ok (.ofBool on)
  | .name s =>
    match ColorMode.ofName? s with
    | none => .error ⟨s⟩
    | some mode => .ok mode

abbrev Environment := List (Text × Text)

/-- The value of a variable, empty if it is not set. -/
def Environment.value (environment : Environment) (name : Text) : Text :=
  ((environment.find? (·.1 = name)).map (·.2)).getD []

def Environment.refusesColor (environment : Environment) : Bool :=
  environment.value (text "NO_COLOR") ≠ []

/-- An output stream, by what it answers to the question whether it is a terminal. -/
inductive Stream where
  | terminal
  | file
  /-- The stream cannot be asked. -/
  | unasking
  | closed
  /-- The question fails in the operating system. -/
  | broken
  deriving DecidableEq, Repr

structure BrokenStream where
  deriving DecidableEq, Repr

def BrokenStream.message (_ : BrokenStream) : Text :=
  text "[Errno 5] Input/output error"

def Stream.isTerminal : Stream → Except BrokenStream Bool
  | .terminal => .ok true
  | .file => .ok false
  | .unasking => .ok false
  | .closed => .ok false
  | .broken => .error {}

/-- The painter for a mode. The stream is asked only where mode and environment leave it open. -/
def Painter.ofMode (mode : ColorMode) (environment : Environment) (stream : Stream) :
    Except BrokenStream Painter :=
  if mode = .never ∨ environment.refusesColor then .ok { enabled := false }
  else if mode = .always then .ok { enabled := true }
  else stream.isTerminal.map fun answer => { enabled := answer }

end CheckReport.Terminal
