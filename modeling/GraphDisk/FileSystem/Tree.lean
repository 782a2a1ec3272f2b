import GraphDisk.FileSystem.Path
import GraphDisk.Table

/-!
# Directory trees as values

A file system is the tree of what lies under its top directory: files, symbolic links and directories. The entries of a
directory are a list of names and nodes, kept in the order of the names by `Directory.insert`. A `Location` names a
node by the directories on the way to it; unlike a path it holds no links and no steps upwards.
-/

namespace GraphDisk

/-! ## Files -/

/-- What a file holds. Tables are kept as values and not as bytes, but a table whose file was cut or extended is a table
no more, until that is taken back. -/
inductive Content where
  | bytes (data : ByteArray)
  | table (t : Table)
  /-- Some of the first bytes of a table's file, and other bytes after them. -/
  | damaged (t : Table) (kept : Nat) (extra : ByteArray)

namespace Content

def empty : Content := bytes ByteArray.empty

/-- The size of a table's file. Real files differ in size; one size stands for all of them, since no more is said about
a table's bytes than that there are more than a hundred. -/
def tableSize : Nat := 400

/-- The last bytes of a table's file. -/
def closing : List UInt8 := "PAR1".toUTF8.toList

/-- The content made of the first bytes of a table's file and other bytes after them. It is the whole table if the other
bytes are just those that are missing. -/
def ofPieces (t : Table) (kept : Nat) (extra : ByteArray) : Content :=
  let missing := tableSize - kept
  if kept = 0 then bytes extra
  else if missing ≤ closing.length ∧ extra.toList = closing.drop (closing.length - missing) then table t
  else damaged t kept extra

def size : Content → Nat
  | bytes data => data.size
  | table _ => tableSize
  | damaged _ kept extra => kept + extra.size

def isEmpty (c : Content) : Bool := c.size == 0

def append (data : ByteArray) : Content → Content
  | bytes old => bytes (old ++ data)
  | table t => ofPieces t tableSize data
  | damaged t kept extra => ofPieces t kept (extra ++ data)

/-- The first bytes of the content, at most the given number. -/
def keep (n : Nat) : Content → Content
  | bytes old => bytes (old.extract 0 n)
  | table t => ofPieces t (min n tableSize) ByteArray.empty
  | damaged t kept extra => ofPieces t (min n kept) (extra.extract 0 (n - kept))

/-- The content without its last bytes, at most the given number. -/
def cut (n : Nat) (c : Content) : Content := c.keep (c.size - n)

end Content

/-! ## Nodes and directories -/

inductive Node where
  | file (content : Content)
  | link (target : Path)
  | directory (entries : List (String × Node))

namespace Node

def isFile : Node → Bool
  | file _ => true
  | _ => false

def isDirectory : Node → Bool
  | directory _ => true
  | _ => false

end Node

abbrev Directory := List (String × Node)

/-- The names of the directories on the way to a node, from the top, and the node's own name. -/
abbrev Location := List String

namespace Directory

def find? (d : Directory) (name : String) : Option Node := d.lookup name

/-- Puts an entry in its place; one of the same name is replaced. -/
def insert (name : String) (node : Node) : Directory → Directory
  | [] => [(name, node)]
  | (k, n) :: rest =>
    if name < k then (name, node) :: (k, n) :: rest
    else if name = k then (name, node) :: rest
    else (k, n) :: insert name node rest

def erase (name : String) (d : Directory) : Directory := d.filter fun e => e.1 ≠ name

def node? : Location → Directory → Option Node
  | [], d => some (.directory d)
  | name :: rest, d =>
    match find? d name with
    | some (.directory entries) => node? rest entries
    | some n => if rest = [] then some n else none
    | none => none

/-- Changes the directory at a location; nothing happens if there is none. -/
def update (change : Directory → Directory) : Location → Directory → Directory
  | [], d => change d
  | name :: rest, d => d.map fun e =>
    if e.1 = name then
      match e.2 with
      | .directory entries => (e.1, .directory (update change rest entries))
      | _ => e
    else e

end Directory

namespace Node

mutual

/-- Everything under a node, each with its location under it. -/
def descendants : Node → List (Location × Node)
  | file _ => []
  | link _ => []
  | directory entries => entriesWithin entries

def entriesWithin : List (String × Node) → List (Location × Node)
  | [] => []
  | (name, n) :: rest => ([name], n) :: (descendants n).map (fun (l, m) => (name :: l, m)) ++ entriesWithin rest

end

end Node

/-- A file system: what lies in its top directory, and where relative paths begin. -/
structure FileSystem where
  top : Directory
  working : Location := []

namespace FileSystem

def empty : FileSystem := { top := [] }

def node? (fs : FileSystem) (l : Location) : Option Node := fs.top.node? l

/-- The entries of the directory at a location, none if there is no directory. -/
def entriesAt (fs : FileSystem) (l : Location) : Directory :=
  match fs.node? l with
  | some (.directory entries) => entries
  | _ => []

def update (fs : FileSystem) (change : Directory → Directory) (l : Location) : FileSystem :=
  { fs with top := fs.top.update change l }

def put (fs : FileSystem) (directory : Location) (name : String) (node : Node) : FileSystem :=
  fs.update (Directory.insert name node) directory

/-- Takes the node at a location out of its directory. The top directory stays. -/
def erase (fs : FileSystem) (l : Location) : FileSystem :=
  match l.getLast? with
  | some name => fs.update (Directory.erase name) l.dropLast
  | none => fs

end FileSystem

end GraphDisk
