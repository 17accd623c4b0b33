import CheckReport.CommandLine.Run

/-!
# The program

`main` runs a command line on the files of the system. It starts no process: what the language
server would write is read from standard input, and an empty input means that it wrote nothing.
-/

namespace CheckReport.Program

open Terminal (Environment Stream)
open Text.Utf8 (Bytes)

attribute [local instance] Platform.strict

def stringOf (s : Text) : String :=
  String.ofList (s.map Char.ofNat)

/-- What is at a path where something can be opened. What cannot be read is a directory. -/
def openedAt (path : Text) : IO Node := do
  try
    let content ← IO.FS.readBinFile (stringOf path)
    return .file true (content.toList.map UInt8.toNat)
  catch _ =>
    return .directory

def nodeAt (path : Text) : IO (Option Node) := do
  try
    let _ ← IO.FS.Handle.mk (stringOf path) .read
    return some (← openedAt path)
  catch _ =>
    return none

/-- The paths that a run may look at: its words, what they give to options, the configuration file
that is used by itself, and the executables they name on the search path. -/
def candidates (environment : Environment) (words : List Text) : List Text :=
  let values := words ++ words.map fun word => (word.dropWhile (· ≠ CommandLine.equals)).drop 1
  let names := CommandLine.Options.executableFrom environment :: values
  let directories := Text.split Server.colon (Server.searchPathOf environment)
  Path.dot :: Settings.defaultConfigName :: names ++
    directories.flatMap fun directory => names.map (Server.inDirectory directory)

/-- The files of the system as far as a run may look at them. -/
def treeOf (cwd : Text) (paths : List Text) : IO FileTree :=
  (paths.filter (· ≠ [])).foldlM (fun tree path => do
    match ← nodeAt path with
    | none => return tree
    | some node => return tree.put (Path.resolve cwd path) node) {}

def environmentOf : IO Environment := do
  let names := ["PATH", "NO_COLOR", "LLSCHECK_EXECUTABLE"]
  names.filterMapM fun name => do
    return (← IO.getEnv name).map fun value => (text name, text value)

partial def readAll (input : IO.FS.Stream) (sofar : ByteArray) : IO ByteArray := do
  let chunk ← input.read 65536
  if chunk.isEmpty then return sofar else readAll input (sofar ++ chunk)

def writeText (output : IO.FS.Stream) (s : Text) : IO Unit := do
  output.write ⟨((Text.Utf8.encodeEscaping s).map UInt8.ofNat).toArray⟩
  output.flush

/-- The server that leaves the given bytes as its diagnosis. -/
def serverOf (bytes : Bytes) : Server.Behaviour :=
  .exits (if bytes = [] then none else some (.file bytes)) 0 (.text []) (.text [])

def run (args : List String) : IO UInt32 := do
  let words := args.map text
  let cwd := text (← IO.currentDir).toString
  let environment ← environmentOf
  let tree ← treeOf cwd (candidates environment words)
  let input ← readAll (← IO.getStdin) .empty
  let output ← IO.getStdout
  let errors ← IO.getStderr
  let stream : Stream := if ← output.isTty then .terminal else .file
  let session : Session := { site := { tree := tree, cwd := cwd } }
  let (result, _) :=
    CommandLine.run session environment stream (serverOf (input.toList.map UInt8.toNat)) words
  writeText output result.stdout
  writeText errors result.stderr
  match result.ending with
  | .status code => return code.toUInt32
  | .crash cause =>
    writeText errors (cause.message ++ [Text.newline])
    return 1

end CheckReport.Program

def main (args : List String) : IO UInt32 :=
  CheckReport.Program.run args
