import CheckReport.Server.Run

/-!
# What commands run

Which program the first word of a command names, and what a run of the command comes to: one process
at most, which gets all other words as they are, and whose errors are passed on.
-/

namespace CheckReport

/-- A path leads to a file that may be executed. -/
def Site.HasProgram (site : Site) (path : Text) : Prop :=
  ∃ content, site.at? path = .ok (some (.file true content))

namespace Server

open Text.Utf8 (StandsFor)

/-! ### Programs -/

/-- The directories of the search path in their order. An empty search path has none. -/
def Host.directories (host : Host) : List Text :=
  if host.searchPath = [] then [] else Text.split colon host.searchPath

/-- What a word names as a program: an absolute path itself, another path the program that is there, a
bare name the one in the earliest directory of the search path that has one. -/
inductive Names (host : Host) (word : Text) : Text → Prop where
  | absolute (absolute : Path.isAbsoluteText word = true) :
      Names host word (Path.ofText word).toText
  | relative (relative : Path.isAbsoluteText word = false) (path : Text.slash ∈ word)
      (there : host.site.HasProgram word) : Names host word word
  | bare {before after : List Text} {directory : Text} (bare : Text.slash ∉ word)
      (searched : host.directories = before ++ directory :: after)
      (earlier : ∀ other ∈ before, ¬ host.site.HasProgram (inDirectory other word))
      (there : host.site.HasProgram (inDirectory directory word)) :
      Names host word (inDirectory directory word)

/-- A word is no absolute path, and there is no program where it is looked for. -/
structure Lost (host : Host) (word : Text) : Prop where
  relative : Path.isAbsoluteText word = false
  here : Text.slash ∈ word → ¬ host.site.HasProgram word
  searched : Text.slash ∉ word →
    ∀ directory ∈ host.directories, ¬ host.site.HasProgram (inDirectory directory word)

/-! ### Processes -/

/-- The words can be given to a program: the system takes those that can be paths. -/
def Fit [Platform] (argv : List Text) : Prop :=
  Platform.longestWait.isSome = true → ∀ word ∈ argv, Site.isPossible word = true

/-- The time that is set, if any, is one that the system waits. -/
def Waits [Platform] (timeout : Option Binary64) : Prop :=
  ∀ time longest, timeout = some time → Platform.longestWait = some longest →
    time.isWithin longest = true

/-- A process was started: it ended, or the time that was set ran out. -/
inductive Behaviour.Started (timeout : Option Binary64) : Behaviour → Prop where
  | exits (product : Option Product) (status : Int) (stdout stderr : Output) :
      Started timeout (.exits product status stdout stderr)
  | expires (product : Option Product) (stdout stderr : Option Output) {limit : Binary64}
      (set : timeout = some limit) : Started timeout (.expires product stdout stderr)

/-- The text of an output: UTF-8, in which a line feed stands for each line break. -/
inductive Reads : Output → Text → Prop where
  | text (s : Text) : Reads (.text s) s
  | bytes {t : Text} (scalar : ∀ c ∈ t, Text.IsScalar c) :
      Reads (.bytes (Text.Utf8.encode t)) (Artifact.withLineFeeds t)

/-- The text of an output that was caught. Bytes are read without those that stand for themselves. -/
inductive Caught : Option Output → Text → Prop where
  | nothing : Caught none []
  | text (s : Text) : Caught (some (.text s)) s
  | bytes {b : Text.Utf8.Bytes} {t : Text} (bytes : ∀ x ∈ b, x < 0x100) (stands : StandsFor t b) :
      Caught (some (.bytes b)) (t.filter fun c => !Text.isSurrogate c)

/-- How a process that was started ends, and what is kept of it. -/
inductive Finishes (argv : List Text) (timeout : Option Binary64) : Behaviour → Finished → Prop where
  | exits (product : Option Product) (status : Int) {stdout stderr : Output} {printed said : Text}
      (out : Reads stdout printed) (err : Reads stderr said) :
      Finishes argv timeout (.exits product status stdout stderr) ⟨argv, status, printed, said⟩
  | expiresSaying (product : Option Product) {stdout stderr : Option Output} {limit : Binary64}
      {printed said : Text} (set : timeout = some limit) (out : Caught stdout printed)
      (err : Caught stderr said) (some : said ≠ []) :
      Finishes argv timeout (.expires product stdout stderr)
        ⟨argv, 124, printed, said ++ [Text.newline] ++ timeoutNote limit⟩
  | expiresSilent (product : Option Product) {stdout stderr : Option Output} {limit : Binary64}
      {printed : Text} (set : timeout = some limit) (out : Caught stdout printed)
      (err : Caught stderr []) :
      Finishes argv timeout (.expires product stdout stderr) ⟨argv, 124, printed, timeoutNote limit⟩

/-- The error that the call of a process ends with, other than that its time ran out. -/
inductive Fails [Platform] (executable : Text) (rest : List Text) (timeout : Option Binary64) :
    Behaviour → RunFault → Prop where
  | unfit (behaviour : Behaviour) {fault : WordFault}
      (first : unfit? (executable :: rest) = some fault) :
      Fails executable rest timeout behaviour (.unfit fault)
  | missing (fit : Fit (executable :: rest)) :
      Fails executable rest timeout .missing (.missing executable)
  | refused (fit : Fit (executable :: rest)) (error : LaunchError) :
      Fails executable rest timeout (.refused error) (.refused error executable)
  | overlong {behaviour : Behaviour} {time : Binary64} (fit : Fit (executable :: rest))
      (started : behaviour.Started timeout) (set : timeout = some time) (long : ¬ Waits timeout) :
      Fails executable rest timeout behaviour (.overlong time)
  | stdout {product : Option Product} {status : Int} {b : Text.Utf8.Bytes} {stderr : Output}
      {fault : Text.Utf8.Fault} (fit : Fit (executable :: rest)) (waits : Waits timeout)
      (bad : Text.Utf8.decode b = .error fault) :
      Fails executable rest timeout (.exits product status (.bytes b) stderr) (.undecodable fault)
  | stderr {product : Option Product} {status : Int} {stdout : Output} {b : Text.Utf8.Bytes}
      {printed : Text} {fault : Text.Utf8.Fault} (fit : Fit (executable :: rest))
      (waits : Waits timeout) (out : Reads stdout printed)
      (bad : Text.Utf8.decode b = .error fault) :
      Fails executable rest timeout (.exits product status stdout (.bytes b)) (.undecodable fault)
  /-- A process whose time runs out although none was set. -/
  | unset {product : Option Product} {stdout stderr : Option Output} (fit : Fit (executable :: rest))
      (unset : timeout = none) :
      Fails executable rest timeout (.expires product stdout stderr) .expiredWithoutTimeout

/-! ### Runs -/

/-- One process is called for a command: the program that its first word names, with the other words as
they are. What the call ends with is what the run ends with. -/
structure CallsProgram [Platform] (host : Host) (behaviour : Behaviour) (timeout : Option Binary64)
    (word : Text) (rest : List Text) (executable : Text) (run : Run) : Prop where
  names : ∀ other, Names host word other ↔ other = executable
  place : Path.isAbsoluteText word = true → host.site.place executable = host.site.place word
  calls : run.calls = [⟨executable :: rest, timeout⟩]
  finished : ∀ finished, Fit (executable :: rest) → Waits timeout →
    Finishes (executable :: rest) timeout behaviour finished → run.result = .ok finished
  failed : ∀ fault, run.result = .error fault ↔ Fails executable rest timeout behaviour fault

/-- A run of a command calls the program that the first word names, or starts nothing and says why. -/
structure RunsCommand [Platform] (host : Host) (behaviour : Behaviour) (timeout : Option Binary64)
    (words : List Text) (run : Run) : Prop where
  noWords : run.result = .error .noWords ↔ words = []
  notFound : ∀ name, run.result = .error (.notFound name) ↔ words.head? = some name ∧ Lost host name
  unstarted : (∀ name ∈ words.head?, Lost host name) → run.calls = [] ∧ run.tree = host.site.tree
  started : ∀ word rest, words = word :: rest → ¬ Lost host word →
    ∃ executable, CallsProgram host behaviour timeout word rest executable run

end Server

end CheckReport
