import CheckReport.Server.ArtifactFirst

/-!
# Series of checks

Checks in one process, one after another on the same files. A directory of its own is made for the
output of each, and what earlier checks left in theirs stays there.
-/

namespace CheckReport.Server

open Terminal (Environment)
open Text.Utf8 (Bytes)

/-! ### Where executables are looked for -/

/-- The paths that an executable is looked for at, in their order. -/
def Host.candidates (host : Host) (name : Text) : List Text :=
  if name.contains Text.slash then [name]
  else if host.searchPath = [] then []
  else (Text.split colon host.searchPath).map (inDirectory · name)

/-- A place is gone by where an executable is looked for. One that an absolute path names is not
looked for. -/
def Host.GoesBy (host : Host) (word : Text) (place : List Text) : Prop :=
  (Path.ofText word).isAbsolute = false ∧
    ∃ candidate ∈ host.candidates word, place ∈ host.site.trail candidate

/-- No word of a request is taken for the option before the path of the artifact. -/
def Request.Clear (request : Request) : Prop :=
  request.executable ≠ artifactOption ∧ request.workspace.toText ≠ artifactOption

/-- The words that an executable is run with. -/
def Invocation.argv (invocation : Invocation) (executable : Text) : List Text :=
  executable :: invocation.command.tail

/-! ### Rounds -/

section

variable [Platform]

/-- A check of a series, with the place that is made for its output. -/
structure Round where
  place : List Text
  environment : Environment
  behaviour : Behaviour
  request : Request

namespace Round

/-- The same check with its output in another place. -/
def elsewhere (round : Round) (place : List Text) : Round :=
  { round with place := place }

def invocation (round : Round) : Invocation :=
  round.request.invocation round.place

def host (round : Round) (site : Site) : Host :=
  ⟨site, round.environment⟩

/-- The host with the directory for the output made. -/
def prepared (round : Round) (site : Site) : Host :=
  (round.host site).withDirectory round.place

def run (round : Round) (site : Site) : CheckRun :=
  checkIn round.place (round.host site) round.behaviour round.request

/-- The files that a round leaves behind. -/
def leave (round : Round) (site : Site) : Site :=
  (round.run site).after (round.host site)

def GoesBy (round : Round) (site : Site) (place : List Text) : Prop :=
  (round.host site).GoesBy round.request.executable place

/-- What is promised of a directory that is made for output: nothing was at its place or below, in a
directory that was there, and its path can be used as it is written. -/
structure Made (round : Round) (site : Site) : Prop where
  vacant : ∀ below, round.place <+: below → site.tree.at? below = none
  parents : ∀ parent, parent <+: round.place → parent ≠ round.place →
    site.tree.at? parent = some .directory
  names : ∀ name ∈ round.place, Site.IsName name
  short : Site.size round.invocation.artifactPath < Site.pathLimit

def found (round : Round) (site : Site) : Option Text :=
  resolve (round.prepared site) round.request.executable

/-- What the server of a round leaves that is run as `executable`. -/
def product (round : Round) (executable : Text) : Option Product :=
  round.behaviour.productOf (round.invocation.argv executable)

/-- The files once the server of a round was started. -/
def delivered (round : Round) (site : Site) (executable : Text) : Site :=
  { site with
    tree := deliver (round.prepared site).site (round.invocation.argv executable)
      (round.product executable) }

/-- The content of the file for the diagnosis, if the server that is run as `executable` leaves one
where it is told to. -/
def leaves? (round : Round) (executable : Text) : Option Bytes :=
  match round.product executable, valueOf? artifactOption (round.invocation.argv executable) with
  | some (.file content), some path =>
    if path = round.invocation.artifactPath then some content else none
  | _, _ => none

/-- What a round comes to once its server has ended: what its own file holds, or without one what the
status says. -/
def concludes (round : Round) (executable : Text) (status : Int) (stderr : Text) :
    Except CheckFault (Option Diagnosis) :=
  match round.leaves? executable with
  | some content =>
    ((Artifact.read round.invocation.artifactPath content).map some).mapError CheckFault.ofArtifact
  | none =>
    if status = 0 then .ok none
    else .error (.failed (.of round.invocation.command status stderr))

/-- What a round comes to by the executable that is found for it. No other file matters. -/
def comesTo (round : Round) : Option Text → Except CheckFault (Option Diagnosis)
  | none => .error (notRun round.invocation.command (.notFound round.request.executable))
  | some executable =>
    match round.behaviour.finish (round.invocation.argv executable) round.request.timeout with
    | .error fault => .error (notRun round.invocation.command fault)
    | .ok finished => round.concludes executable finished.status finished.stderr

end Round

/-! ### Series -/

def runs (site : Site) : List Round → List CheckRun
  | [] => []
  | round :: rounds => round.run site :: runs (round.leave site) rounds

/-- The files that rounds leave behind, one after another. -/
def leaveAll (site : Site) (rounds : List Round) : Site :=
  rounds.foldl (fun site round => round.leave site) site

/-- Rounds with the output of each where the next output goes as its turn comes. -/
def allot (site : Site) : List Round → List Round
  | [] => []
  | round :: rounds =>
    let next := round.elsewhere (round.host site).nextOutput
    next :: allot (next.leave site) rounds

/-- The place of each round is made as its turn comes. -/
def AllMade (site : Site) : List Round → Prop
  | [] => True
  | round :: rounds => round.Made site ∧ AllMade (round.leave site) rounds

/-- Two sites have the same files for a round. What is in some output directories does not count,
unless the round itself goes by it. -/
structure SameFiles (outputs : List (List Text)) (round : Round) (a b : Site) : Prop where
  cwd : a.cwd = b.cwd
  tree : ∀ place, ((∃ output ∈ outputs, output <+: place) → round.GoesBy a place) →
    a.tree.at? place = b.tree.at? place

/-! ### The same up to the output directory -/

/-- Answers that differ by the output directory of the two invocations, and by nothing else. -/
inductive SameAnswer (here there : Invocation) :
    Except CheckFault (Option Diagnosis) → Except CheckFault (Option Diagnosis) → Prop where
  | found (diagnosis : Option Diagnosis) : SameAnswer here there (.ok diagnosis) (.ok diagnosis)
  | failed (status : Int) (stderr : Text) :
      SameAnswer here there (.error (.failed ⟨here.command, status, stderr⟩))
        (.error (.failed ⟨there.command, status, stderr⟩))
  | notJson (problem : Json.Problem) (place : Json.Place) :
      SameAnswer here there (.error (.malformed (.notJson here.artifactPath problem place)))
        (.error (.malformed (.notJson there.artifactPath problem place)))
  | notObject (v : Json.Value) :
      SameAnswer here there (.error (.malformed (.notObject v))) (.error (.malformed (.notObject v)))
  | violations (all : List Violation) :
      SameAnswer here there (.error (.malformed (.violations all)))
        (.error (.malformed (.violations all)))
  | unreadable (fault : Artifact.Unreadable) :
      SameAnswer here there (.error (.unreadable fault)) (.error (.unreadable fault))
  | notRun (fault : RunFault) :
      SameAnswer here there (.error (.notRun fault)) (.error (.notRun fault))

inductive SameCall (here there : Invocation) : Call → Call → Prop where
  | call (executable : Text) (timeout : Option Binary64) :
      SameCall here there ⟨here.argv executable, timeout⟩ ⟨there.argv executable, timeout⟩

/-- Checks that come to the same by the same calls, up to the output directory. -/
structure SameCheck (here there : Invocation) (a b : CheckRun) : Prop where
  answer : SameAnswer here there a.result b.result
  calls : List.Forall₂ (SameCall here there) a.calls b.calls

/-- What earlier rounds of a series leave behind means nothing to a later one. -/
structure Independent (site : Site) (before : List Round) (round : Round) : Prop where
  /-- It comes to what the same check comes to as the only one on the same files, with the output in
  another place unless the request itself names the one or the other. -/
  alone : ∀ (other : Site) (place : List Text),
    SameFiles (before.map (·.place)) round (leaveAll site before) other →
    (round.elsewhere place).Made other →
    place = round.place ∨ ¬ round.GoesBy (leaveAll site before) round.place ∧
      ¬ round.GoesBy (leaveAll site before) place →
    SameCheck round.invocation (round.elsewhere place).invocation
      (round.run (leaveAll site before)) ((round.elsewhere place).run other)
  /-- A diagnosis is the one that its own server left. -/
  own : ∀ diagnosis, (round.run (leaveAll site before)).result = .ok (some diagnosis) →
    ∃ content, round.behaviour.product = some (.file content) ∧
      Artifact.read round.invocation.artifactPath content = .ok diagnosis
  /-- The files are the same as before the series, if the servers wrote where they were told to. -/
  kept : (∀ earlier ∈ before, earlier.request.Clear) →
    (∀ earlier ∈ before, ∀ below, earlier.place <+: below →
      ¬ round.GoesBy (leaveAll site before) below) →
    SameFiles (before.map (·.place)) round (leaveAll site before) site

end

end CheckReport.Server
