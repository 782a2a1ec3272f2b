import GraphDisk.ShardDirectory.Listing

/-!
# Publishing a shard directory

A new shard directory is assembled under a staging name next to its place and then swapped in: if the place is free by
one rename, otherwise by moving what is there aside, renaming, and removing what was moved. A `Publication` says what
goes where; `assembly` and `swap` are its file-system calls as data, each with the calls that take it back when it
fails. `Publication.run` carries them out. Beside failing by itself, a call may be refused for a reason outside the
file system's content; a refused call changes nothing.
-/

namespace GraphDisk

/-! ## Calls -/

inductive Call where
  | makeDirectories (p : Path)
  | makeDirectory (p : Path)
  | writeFile (p : Path) (content : Content)
  | rename (source destination : Path)
  | removeTree (p : Path)

/-- Which calls are refused for an outside reason, and why. -/
abbrev Refusals := Call → Option IoFault

def Refusals.none : Refusals := fun _ => Option.none

namespace Call

/-- A call that does all or nothing, with the file system it leaves. -/
def settle (fs : FileSystem) : Except IoFault FileSystem → FileSystem × Except IoFault Unit
  | .ok after => (after, .ok ())
  | .error fault => (fs, .error fault)

def perform (fs : FileSystem) : Call → FileSystem × Except IoFault Unit
  | makeDirectories p => fs.makeDirectories p
  | makeDirectory p => settle fs (fs.makeDirectory p)
  | writeFile p content => settle fs (fs.writeFile p content)
  | rename source destination => settle fs (fs.rename source destination)
  | removeTree p => settle fs (fs.removeTree p)

def attempt (refused : Refusals) (fs : FileSystem) (c : Call) : FileSystem × Except IoFault Unit :=
  match refused c with
  | some fault => (fs, .error fault)
  | .none => c.perform fs

/-- Carries out calls one after the other, whether they fail or not. -/
def attemptAll (refused : Refusals) (fs : FileSystem) (calls : List Call) : FileSystem :=
  calls.foldl (fun fs c => (c.attempt refused fs).1) fs

end Call

/-- A call, and the calls that take back what was done before when it fails. -/
structure Step where
  call : Call
  undo : List Call

namespace Step

/-- Carries out steps until one fails, which is then taken back. -/
def runAll (refused : Refusals) (fs : FileSystem) : List Step → FileSystem × Except IoFault Unit
  | [] => (fs, .ok ())
  | s :: rest =>
    match s.call.attempt refused fs with
    | (after, .ok ()) => runAll refused after rest
    | (after, .error fault) => (Call.attemptAll refused after s.undo, .error fault)

end Step

/-! ## Publications -/

/-- The name under which a directory that is replaced is kept until it is removed. -/
def asideName (stagingName : String) : String := ".replaced" ++ stagingName

/-- A shard directory that is to be published. -/
structure Publication where
  /-- The directory in which everything happens. -/
  root : Path
  name : String
  /-- The name under which it is assembled. -/
  stagingName : String
  table : Table
  marker : String

namespace Publication

def target (p : Publication) : Path := p.root.entry p.name

def staging (p : Publication) : Path := p.root.entry p.stagingName

def aside (p : Publication) : Path := p.root.entry (asideName p.stagingName)

/-- The calls that assemble the shard directory. -/
def assembly (p : Publication) : List Step := [
  ⟨.makeDirectories p.root, []⟩,
  ⟨.makeDirectory p.staging, []⟩,
  ⟨.writeFile (p.staging.entry (partFileName 0)) (.table p.table), [.removeTree p.staging]⟩,
  ⟨.writeFile (p.staging.entry p.marker) .empty, [.removeTree p.staging]⟩]

/-- The calls that put the assembled directory in its place. -/
def swap (p : Publication) (occupied : Bool) : List Step :=
  if occupied then [
    ⟨.rename p.target p.aside, [.removeTree p.staging]⟩,
    ⟨.rename p.staging p.target, [.rename p.aside p.target, .removeTree p.staging]⟩]
  else [⟨.rename p.staging p.target, [.removeTree p.staging]⟩]

/-- The calls after the swap; their failure is no failure of the publication. -/
def cleanUp (p : Publication) (occupied : Bool) : List Call := if occupied then [.removeTree p.aside] else []

def run (refused : Refusals) (fs : FileSystem) (p : Publication) : FileSystem × Except IoFault Unit :=
  match Step.runAll refused fs p.assembly with
  | (assembled, .ok ()) =>
    let occupied := assembled.exists? p.target
    match Step.runAll refused assembled (p.swap occupied) with
    | (swapped, .ok ()) => (Call.attemptAll refused swapped (p.cleanUp occupied), .ok ())
    | failed => failed
  | failed => failed

end Publication

/-! ## Staging names -/

def stagingName (n : Nat) : String :=
  let digits := Nat.toDigits 10 n
  ".staging-" ++ String.ofList (List.replicate (6 - digits.length) '0' ++ digits)

/-- A staging name for a shard directory: neither it nor the name aside that goes with it is taken by an entry of the
directory around, or by the shard directory itself. A taken name rules out only one staging name, so of one more staging
name than there are taken names, one is left. -/
def freshStagingName (entries : Directory) (name : String) : String :=
  let taken := name :: entries.map Prod.fst
  let candidates := (List.range (taken.length + 1)).map stagingName
  (candidates.find? fun c => !taken.contains c && !taken.contains (asideName c)).getD (stagingName 0)

end GraphDisk
