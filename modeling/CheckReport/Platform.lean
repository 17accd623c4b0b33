import CheckReport.Number.Reading

/-!
# Platforms

What is left to the libraries and the system below: how the words of a command line are taken, how
deep JSON may nest, and which processes can be run. The theory holds for every platform.
-/

namespace CheckReport

class Platform where
  /-- A word that gives a path is asked for as it is written. Otherwise it is made a path first, so
  that an empty word is the working directory and a slash at the end says nothing. -/
  asWritten : Bool
  /-- The time that a word gives, in seconds. -/
  time? : Text → Option Binary64
  /-- The levels to which arrays and objects may nest. -/
  levels : Nat
  /-- The time in milliseconds that the system waits for a process at most. Where there is none, a
  stand-in takes the place of the system: it takes all words and does not wait. -/
  longestWait : Option Nat

namespace Platform

/-- The greatest number of milliseconds that the system can be asked to wait for. -/
def waitLimit : Nat := 2147483647

/-- Paths are made before they are looked for, and underscores are dropped from numbers. -/
@[reducible] def loose : Platform where
  asWritten := false
  time? := Binary64.ofLooseText?
  levels := 990
  longestWait := some waitLimit

/-- Paths are looked for as they are written, and underscores stand between digits only. -/
@[reducible] def strict : Platform :=
  { loose with
    asWritten := true
    time? := Binary64.ofText? }

end Platform

end CheckReport
