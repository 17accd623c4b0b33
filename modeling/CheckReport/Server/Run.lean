import CheckReport.Diagnosis.Artifact
import CheckReport.Server.Invocation
import CheckReport.Terminal.ColorMode

/-!
# Runs

A run of the server starts one process at most. A process that does not end within its time counts
as one that ends with a status of its own, with a note after what it wrote to standard error. What
is read of a process that ends by itself is its output as text; a process whose output is no text
comes to nothing, and neither does one that the system cannot be asked for.
-/

namespace CheckReport.Server

open Text.Utf8 (Bytes)

/-!
### Finding executables

A process sees files from its working directory and has an environment. An executable is named by
an absolute path, which is taken as it is, by a relative path, or by a bare name, which is looked
for in the directories of the search path in their order.
-/

structure Host where
  site : Site
  environment : Terminal.Environment
  deriving DecidableEq, Repr

def colon : Nat := 0x3A

/-- What is searched where no search path is set. One that is set to nothing is not replaced. -/
def defaultSearchPath : Text := text "/bin:/usr/bin"

def searchPathOf (environment : Terminal.Environment) : Text :=
  ((environment.find? (·.1 = text "PATH")).map (·.2)).getD defaultSearchPath

/-- The directories that bare names are looked for in, separated by colons. -/
def Host.searchPath (host : Host) : Text :=
  searchPathOf host.environment

def inDirectory (directory name : Text) : Text :=
  if directory = [] then name
  else if directory.getLast? = some Text.slash then directory ++ name
  else directory ++ Text.slash :: name

def lookup (host : Host) (name : Text) : Option Text :=
  if name.contains Text.slash then
    if host.site.isExecutable name then some name else none
  else if host.searchPath = [] then none
  else ((Text.split colon host.searchPath).map (inDirectory · name)).find? host.site.isExecutable

/-- The path of the executable that the first word of a command gives. -/
def resolve (host : Host) (word : Text) : Option Text :=
  let path := Path.ofText word
  if path.isAbsolute then some path.toText else lookup host word

/-! ### Behaviours and faults -/

/-- What a process leaves at the place for its diagnosis. -/
inductive Product where
  | file (content : Bytes)
  | directory
  deriving DecidableEq, Repr

/-- Output as it was caught: bytes, or text if it was read already. -/
inductive Output where
  | text (s : Text)
  | bytes (b : Bytes)
  deriving DecidableEq, Repr

/-- An error of the system that is asked to start an executable: that it may not be run, that its
format is not known, or any other one. That the executable is not there is told apart. -/
structure LaunchError where
  number : Nat
  reason : Text
  /-- The message names the executable. -/
  named : Bool := true
  present : number ≠ 2 := by decide
  deriving DecidableEq, Repr

namespace LaunchError

def denied : LaunchError where
  number := 13
  reason := text "Permission denied"

def notDirectory : LaunchError where
  number := 20
  reason := text "Not a directory"

def message (error : LaunchError) (path : Text) : Text :=
  text "[Errno " ++ Text.ofNat error.number ++ text "] " ++ error.reason ++
    if error.named then text ": " ++ Text.Quoted.quote path else []

end LaunchError

inductive Behaviour where
  /-- There is no such executable. -/
  | missing
  /-- The executable is not started. -/
  | refused (error : LaunchError)
  | exits (product : Option Product) (status : Int) (stdout stderr : Output)
  | expires (product : Option Product) (stdout stderr : Option Output)
  deriving DecidableEq, Repr

/-- The executable may not be run. -/
def Behaviour.denied : Behaviour :=
  .refused .denied

structure Call where
  argv : List Text
  timeout : Option Binary64
  deriving DecidableEq, Repr

structure Finished where
  argv : List Text
  status : Int
  stdout : Text
  stderr : Text
  deriving DecidableEq, Repr

/-- Why a word cannot be given to a program. -/
inductive WordFault where
  | zero
  | surrogates (fault : Text.Utf8.Unencodable)
  deriving DecidableEq, Repr

def WordFault.message : WordFault → Text
  | .zero => text "embedded null byte"
  | .surrogates fault => fault.message

inductive RunFault where
  | noWords
  /-- A name that leads to no executable. -/
  | notFound (name : Text)
  | unfit (fault : WordFault)
  | missing (path : Text)
  | refused (error : LaunchError) (path : Text)
  /-- More time than the system waits. -/
  | overlong (timeout : Binary64)
  | undecodable (fault : Text.Utf8.Fault)
  /-- Time ran out where none was set. -/
  | expiredWithoutTimeout
  deriving DecidableEq, Repr

/-- The milliseconds of which nanoseconds can still be counted. -/
def countedWait : Nat := 9223372036854

/-- What the system says to a time that it does not wait. -/
def overlongNote : Binary64 → Text
  | .nan _ => text "cannot convert float NaN to integer"
  | .infinite _ => text "cannot convert float infinity to integer"
  | time =>
    if time.isWithin countedWait then text "timeout is too large"
    else text "timestamp too large to convert to C _PyTime_t"

def RunFault.message : RunFault → Text
  | .noWords => text "subprocess command requires at least one argument"
  | .notFound name => text "Executable '" ++ name ++ text "' was not found on PATH"
  | .unfit fault => fault.message
  | .missing path => text "[Errno 2] No such file or directory: " ++ Text.Quoted.quote path
  | .refused error path => error.message path
  | .overlong timeout => overlongNote timeout
  | .undecodable fault => fault.message
  | .expiredWithoutTimeout => text "unsupported format string passed to NoneType.__format__"

/-- What came of a run: the process, the processes started, and the files afterwards. -/
structure Run where
  result : Except RunFault Finished
  calls : List Call
  tree : FileTree

def timeoutStatus : Int := 124

/-! ### Output -/

/-- The output of a process that ended, as text: UTF-8, with a line feed for each line break. -/
def Output.read : Output → Except RunFault Text
  | .text s => .ok s
  | .bytes b => ((Text.Utf8.decode b).map Artifact.withLineFeeds).mapError .undecodable

/-- What was caught of an output as text, without bytes that do not decode. -/
def Output.toText : Option Output → Text
  | none => []
  | some (.text s) => s
  | some (.bytes b) => Text.Utf8.decodeLossy b

def timeoutNote (timeout : Binary64) : Text :=
  text "Command timed out after " ++ timeout.tenths ++ text "s"

/-- The standard error of a process that ran out of time. -/
def withNote (stderr note : Text) : Text :=
  if stderr = [] then note else stderr ++ Text.newline :: note

/-! ### Words -/

/-- What keeps a word from being given to a program. -/
def wordFault? (word : Text) : Option WordFault :=
  match word.dropWhile Text.Utf8.isGivable with
  | [] => if 0 ∈ word then some .zero else none
  | rest =>
    some (.surrogates
      ⟨(word.takeWhile Text.Utf8.isGivable).length, rest.takeWhile Text.isSurrogate⟩)

/-- The word after an option, where the option first stands. -/
def valueOf? (option : Text) : List Text → Option Text
  | [] => none
  | word :: words => if word = option then words.head? else valueOf? option words

def deliver (site : Site) (argv : List Text) (product : Option Product) : FileTree :=
  match product, valueOf? artifactOption argv with
  | some (.file content), some path => site.tree.put (site.place path) (.file false content)
  | some .directory, some path => site.tree.put (site.place path) .directory
  | _, _ => site.tree

/-! ### Processes -/

section

variable [Platform]

/-- The first fault of words that the system is given. -/
def unfit? (argv : List Text) : Option WordFault :=
  if Platform.longestWait.isSome then argv.findSome? wordFault? else none

/-- Waiting for a process, for at most the time that is set. -/
def wait (timeout : Option Binary64) : Except RunFault Unit :=
  match timeout, Platform.longestWait with
  | some time, some longest => if time.isWithin longest then .ok () else .error (.overlong time)
  | _, _ => .ok ()

/-- What is kept of a process whose time ran out. -/
def expired (argv : List Text) (stdout stderr : Option Output) :
    Option Binary64 → Except RunFault Finished
  | none => .error .expiredWithoutTimeout
  | some limit =>
    .ok ⟨argv, timeoutStatus, Output.toText stdout,
      withNote (Output.toText stderr) (timeoutNote limit)⟩

/-- What comes of a process that is to be started with words that it can be given. -/
def Behaviour.outcome (argv : List Text) (timeout : Option Binary64) :
    Behaviour → Except RunFault Finished
  | .missing => .error (.missing (argv.headD []))
  | .refused error => .error (.refused error (argv.headD []))
  | .exits _ status stdout stderr => do
    wait timeout
    let stdout ← stdout.read
    let stderr ← stderr.read
    return ⟨argv, status, stdout, stderr⟩
  | .expires _ stdout stderr => do
    wait timeout
    expired argv stdout stderr timeout

def Behaviour.finish (behaviour : Behaviour) (argv : List Text) (timeout : Option Binary64) :
    Except RunFault Finished :=
  match unfit? argv with
  | some fault => .error (.unfit fault)
  | none => behaviour.outcome argv timeout

def Behaviour.product : Behaviour → Option Product
  | .missing => none
  | .refused _ => none
  | .exits product _ _ _ => product
  | .expires product _ _ => product

/-- What is left by a process that is given some words. -/
def Behaviour.productOf (behaviour : Behaviour) (argv : List Text) : Option Product :=
  if (unfit? argv).isSome then none else behaviour.product

def run (host : Host) (behaviour : Behaviour) (timeout : Option Binary64) (words : List Text) :
    Run :=
  match words with
  | [] => ⟨.error .noWords, [], host.site.tree⟩
  | word :: rest =>
    match resolve host word with
    | none => ⟨.error (.notFound word), [], host.site.tree⟩
    | some executable =>
      let argv := executable :: rest
      ⟨behaviour.finish argv timeout, [⟨argv, timeout⟩],
        deliver host.site argv (behaviour.productOf argv)⟩

end

end CheckReport.Server
