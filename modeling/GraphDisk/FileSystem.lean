import GraphDisk.FileSystem.Walk
import GraphDisk.Shard

/-!
# Calls on a file system

Every call takes the file system and gives the one after it, or the reason why nothing was done. `makeDirectories` and
`remove` can fail halfway: what they did before the failure stays done.
-/

namespace GraphDisk

namespace FileSystem

/-! ## Looking -/

def find (fs : FileSystem) (p : Path) : Except IoFault Node := do
  match ← fs.lookup true p with
  | .found _ node => return node
  | .free .. => throw .notFound

def exists? (fs : FileSystem) (p : Path) : Bool := (fs.find p).isOk

def isDirectory (fs : FileSystem) (p : Path) : Bool :=
  match fs.find p with
  | .ok node => node.isDirectory
  | .error _ => false

def list (fs : FileSystem) (p : Path) : Except IoFault Directory := do
  match ← fs.find p with
  | .directory entries => return entries
  | _ => throw .notDirectory

def readText (fs : FileSystem) (p : Path) : Except IoFault String := do
  match ← fs.find p with
  | .file (.bytes data) =>
    match String.fromUTF8? data with
    | some s => return s
    | none => throw .invalidText
  | .file _ => throw .invalidText
  | _ => throw .isDirectory

/-! ## Making -/

def makeDirectory (fs : FileSystem) (p : Path) : Except IoFault FileSystem := do
  match ← fs.place p with
  | .found .. => throw .alreadyExists
  | .free directory name => return fs.put directory name (.directory [])

def ensureDirectory (fs : FileSystem) (p : Path) : FileSystem × Except IoFault Unit :=
  match fs.makeDirectory p with
  | .ok after => (after, .ok ())
  | .error fault => if fs.isDirectory p then (fs, .ok ()) else (fs, .error fault)

/-- Makes the first of some directories unless there is one, and before it, as far as they are missing, those after it
in the list, which are the directories around it. -/
def ensureChain : List Path → FileSystem → FileSystem × Except IoFault Unit
  | [], fs => (fs, .ok ())
  | p :: around, fs =>
    match fs.makeDirectory p with
    | .ok after => (after, .ok ())
    | .error .notFound =>
      match ensureChain around fs with
      | (after, .ok ()) => after.ensureDirectory p
      | failed => failed
    | .error fault => if fs.isDirectory p then (fs, .ok ()) else (fs, .error fault)

end FileSystem

/-- The path and the paths around it, innermost first; the empty path is none of them. -/
def Path.chain (p : Path) : List Path :=
  let shorter := (List.range p.components.length).reverse.filter fun n => 0 < n || p.isAbsolute
  if p.text = "" then [] else p :: shorter.map fun n => ofComponents p.isAbsolute (p.components.take n)

namespace FileSystem

def makeDirectories (fs : FileSystem) (p : Path) : FileSystem × Except IoFault Unit := ensureChain p.chain fs

def writeFile (fs : FileSystem) (p : Path) (content : Content) : Except IoFault FileSystem := do
  match ← fs.placeFile p with
  | .found location (.file _) =>
    match location.getLast? with
    | some name => return fs.put location.dropLast name (.file content)
    | none => throw .isDirectory
  | .found .. => throw .isDirectory
  | .free directory name => return fs.put directory name (.file content)

def changeFile (fs : FileSystem) (p : Path) (change : Content → Content) : Except IoFault FileSystem := do
  match ← fs.find p with
  | .file content => fs.writeFile p (change content)
  | _ => throw .isDirectory

def makeLink (fs : FileSystem) (target p : Path) : Except IoFault FileSystem := do
  target.check
  match ← fs.place p with
  | .found .. => throw .alreadyExists
  | .free directory name =>
    if p.endsInSlash then throw .notFound
    return fs.put directory name (.link target)

/-! ## Moving and removing -/

/-- Whether a path ends in a step that stays or goes up, so that it names no entry. -/
def endsInDots (p : Path) : Bool :=
  match p.steps.getLast? with
  | some s => s == "." || s == ".."
  | none => true

/-- What stands in the way of moving a node onto another one. -/
def obstacle? (moved onto : Node) : Option IoFault :=
  match moved, onto with
  | .directory _, .directory entries => if entries.isEmpty then none else some .notEmpty
  | .directory _, _ => some .notDirectory
  | _, .directory _ => some .isDirectory
  | _, _ => none

/-- Moves a node to another place in one step. A node of the same sort gives way, a directory only if it is empty. -/
def rename (fs : FileSystem) (source destination : Path) : Except IoFault FileSystem := do
  let origin ← fs.place source
  let goal ← fs.place destination
  if endsInDots source || endsInDots destination then throw .busy
  match origin with
  | .free .. => throw .notFound
  | .found here node =>
    if !node.isDirectory && (source.endsInSlash || destination.endsInSlash) then throw .notDirectory
    match goal with
    | .free directory name =>
      if here.isPrefixOf (directory ++ [name]) then throw .invalidArgument
      return (fs.erase here).put directory name node
    | .found there old =>
      if here = there then return fs
      if here.isPrefixOf there then throw .invalidArgument
      if there.isPrefixOf here then throw .notEmpty
      match obstacle? node old with
      | some fault => throw fault
      | none =>
        match there.getLast? with
        | some name => return (fs.erase here).put there.dropLast name node
        | none => throw .busy

/-- Removes a directory with everything in it, or a symbolic link. A regular file is left alone. -/
def removeTree (fs : FileSystem) (p : Path) : Except IoFault FileSystem := do
  match ← fs.lookup false p with
  | .free .. => throw .notFound
  | .found _ (.file _) => throw .notDirectory
  | .found location _ => return fs.erase location

/-- Why the entry that a path names cannot be taken out of its directory although it leads to a directory. -/
def fixed? (fs : FileSystem) (p : Path) : Option IoFault :=
  match p.steps.getLast? with
  | none => some .busy
  | some "." => some .invalidArgument
  | some ".." => some .notEmpty
  | some _ =>
    match fs.place p with
    | .ok (.found _ (.link _)) => some .notDirectory
    | _ => none

/-- Removes a node, whatever it is. A directory that the path does not name by its own entry loses what it holds, and
stays. -/
def remove (fs : FileSystem) (p : Path) : FileSystem × Except IoFault Unit :=
  match fs.lookup false p with
  | .error fault => (fs, .error fault)
  | .ok (.free ..) => (fs, .error .notFound)
  | .ok (.found location (.directory _)) =>
    match fs.fixed? p with
    | some fault => (fs.update (fun _ => []) location, .error fault)
    | none => (fs.erase location, .ok ())
  | .ok (.found location _) => (fs.erase location, .ok ())

/-! ## Shards in files -/

/-- Opens the shard in a file. What the path leads to has to be there; all that is wrong with it is a fault of that
file. -/
def openShard (fs : FileSystem) (p : Path) : Except Error Shard :=
  match fs.find p with
  | .error fault => .error (.io fault)
  | .ok (.file (.table t)) =>
    match Shard.ofTable t with
    | .ok shard => .ok shard
    | .error fault => .error (.invalidFormat (.inFile p fault))
  | .ok _ => .error (.invalidFormat (.inFile p (.table .unreadable)))

def writeShard {s : Schema} (fs : FileSystem) (p : Path) (rows : RowBuffer s) : Except Error FileSystem := do
  let t ← rows.table
  match fs.writeFile p (.table t) with
  | .ok after => return after
  | .error fault => throw (.io fault)

end FileSystem

end GraphDisk
