import GraphDisk.Config

/-!
# Threads and machines

The columns of a file that is written, and the row groups of a file that is read, are tasks that several threads can
work on at once, if the codec's numbers allow it. Which task is done first is not known. The results are put together in
the order of the tasks, but of several tasks that fail it is the first one to be done that is heard of. Threads may also
fail to start. A `Machine` is all of this for the files of a disk, with the order in which directories are listed, the
paths that cannot be read and the memory that there is.
-/

namespace GraphDisk

/-! ## Tasks -/

/-- The order in which threads are done with the tasks of a file, given how many there are. -/
abbrev Schedule := Nat → List Nat

namespace Schedule

/-- Every task is done once. -/
def Fair (order : Schedule) : Prop := ∀ n, (order n).Perm (List.range n)

variable {ε α : Type}

/-- What is done with the result of a task: it is put in the place of the task. -/
def place (tasks : List (Except ε α)) (slots : List (Option α)) (i : Nat) : Except ε (List (Option α)) :=
  match tasks[i]? with
  | some (.ok a) => .ok (slots.set i (some a))
  | some (.error e) => .error e
  | none => .ok slots

/-- The results of some tasks, each in the place of its task, or the failure that came first. -/
def collect (order : Schedule) (tasks : List (Except ε α)) : Except ε (List α) :=
  ((order tasks.length).foldlM (place tasks) (List.replicate tasks.length none)).map List.reduceOption

/-- The results of some tasks, which are spread over threads or done one after the other. -/
def run (order : Schedule) (spread : Bool) (tasks : List (Except ε α)) : Except ε (List α) :=
  if spread then order.collect tasks else tasks.mapM id

end Schedule

/-! ## Files -/

def CodecConfig.spreads (c : CodecConfig) (rows : Nat) : Bool :=
  decide (1 < c.workers) && decide (c.parallelThreshold.toNat ≤ rows)

/-- Starts threads if they are needed, given why there are none if there are none. -/
def startThreads (needed : Bool) (noThreads : Option IoFault) : Except Error Unit :=
  match needed, noThreads with
  | true, some fault => .error (.io fault)
  | _, _ => .ok ()

def Table.ofRowsBy (codec : CodecConfig) (order : Schedule) (s : Schema) (rows : List s.Row)
    (noThreads : Option IoFault := none) : Except Error Table := do
  startThreads (codec.spreads rows.length) noThreads
  let columns ← order.run (codec.spreads rows.length)
    (s.columns.zipIdx.map fun (column, i) => gather s rows i column.type)
  return {
    elements := s.elements, groups := [⟨columns, rows.length⟩], stated := rows.length, createdBy := some writer }

namespace Shard

def spreads (shard : Shard) (codec : CodecConfig) : Bool :=
  decide (1 < shard.table.groups.length) && codec.spreads shard.table.rowCount

/-- All rows of a shard in file order, with a task for each row group. -/
def readRowsBy (codec : CodecConfig) (order : Schedule) (shard : Shard) (s : Schema)
    (noThreads : Option IoFault := none) (room : Nat := maxAllocation) : Except Error (List s.Row) :=
  if shard.schema = s then do
    startThreads (shard.spreads codec) noThreads
    let groups ← order.run (shard.spreads codec)
      (shard.table.groups.zipIdx.map fun (g, i) => shard.readGroup s i g room)
    s.reserve room groups.flatten.length shard.table.rowCount
    return groups.flatten
  else .error (.invalidFormat (.otherSchema s shard.schema))

end Shard

structure ShardMeta where
  schema : Schema
  rowCount : Nat
  byteSize : Nat
deriving DecidableEq, Repr

/-- Writes collected rows as a shard into a file. The file is made before the rows are looked at, and stays empty if
they cannot be written. -/
def FileSystem.writeShardBy {s : Schema} (codec : CodecConfig) (order : Schedule) (fs : FileSystem) (p : Path)
    (rows : RowBuffer s) (noThreads : Option IoFault := none) : FileSystem × Except Error ShardMeta :=
  match fs.writeFile p .empty with
  | .error fault => (fs, .error (.io fault))
  | .ok created =>
    match Table.ofRowsBy codec order s rows.toList noThreads with
    | .error e => (created, .error e)
    | .ok t =>
      match fs.writeFile p (.table t) with
      | .error fault => (created, .error (.io fault))
      | .ok after => (after, .ok ⟨s, rows.size, (Content.table t).size⟩)

/-! ## Machines -/

structure Machine where
  /-- The order in which a directory lists its entries. -/
  enumerate : Directory → Directory := id
  /-- The order in which threads are done with the tasks of the file at a path. -/
  order : Path → Schedule := fun _ => List.range
  /-- Why there are no threads for the file at a path, if there are none. -/
  noThreads : Path → Option IoFault := fun _ => none
  /-- Why what a path leads to cannot be read although it is there, if it cannot. -/
  refused : Path → Option IoFault := fun _ => none
  /-- The most bytes that can be had at once. -/
  room : Nat := maxAllocation

namespace Machine

def list (m : Machine) (fs : FileSystem) (p : Path) : Except IoFault Directory :=
  match m.refused p with
  | some fault => .error fault
  | none => (fs.list p).map m.enumerate

def openShard (m : Machine) (fs : FileSystem) (p : Path) : Except Error Shard :=
  match m.refused p with
  | some fault => .error (.io fault)
  | none => fs.openShard p

/-- The disk is seen as it is: directories are listed with all their entries, and nothing is refused. -/
structure Faithful (m : Machine) : Prop where
  lists : ∀ entries, (m.enumerate entries).Perm entries
  granted : ∀ p, m.refused p = none

/-- Nothing is left out: directories are listed with all their entries, and all tasks are done. -/
structure Thorough (m : Machine) : Prop where
  lists : ∀ entries, (m.enumerate entries).Perm entries
  fair : ∀ p, (m.order p).Fair

/-- Nothing goes wrong outside the disk; moreover, threads can be started. -/
structure Reliable (m : Machine) : Prop extends m.Faithful, m.Thorough where
  started : ∀ p, m.noThreads p = none

end Machine

end GraphDisk
