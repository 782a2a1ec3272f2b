import GraphDisk.Message
import GraphDisk.ShardDirectory.Publication
import GraphDisk.Entity.OfRows
import GraphDisk.Workers

/-!
# The unordered disk

An unordered disk is a store, a file system and a configuration. `externalize` writes the shard directory of a resident
entity; `internalize` builds an entity from its shard directory and makes it resident. Each of them gives the disk
afterwards and either a summary or the reason of its failure. Before the file system is touched everything that can be
checked without it has been checked.
-/

namespace GraphDisk

structure UnorderedDisk where
  config : Config
  store : Store
  files : FileSystem

structure Summary where
  guid : Guid
  kind : Kind
  rows : Nat
  shards : Nat
  path : Path
deriving DecidableEq, Repr

namespace UnorderedDisk

def shardDirectory (d : UnorderedDisk) (g : Guid) : Except Error Path := do
  return d.config.root.entry (← g.entryName)

/-! ## Writing -/

/-- What is to be published for a resident entity, and the number of its rows. -/
def publication (d : UnorderedDisk) (stagingName : String) (g : Guid) (first second : Option Guid) :
    Except Error (Publication × Schema × Nat) := do
  let name ← g.entryName
  match d.store.get? g with
  | none => throw (.entityNotFound g)
  | some e =>
    let block ← e.externalRows d.store first second
    let table ← Table.ofRows block.schema block.rows
    return ({ root := d.config.root, name, stagingName, table, marker := d.config.marker },
      block.schema, block.rows.length)

/-- Writes the shard directory of a resident entity, assembled under a given name, in a world that may refuse calls. -/
def externalizeAs (refused : Refusals) (stagingName : String) (d : UnorderedDisk) (g : Guid)
    (first second : Option Guid) : UnorderedDisk × Except Error Summary :=
  match d.publication stagingName g first second with
  | .error e => (d, .error e)
  | .ok (p, schema, rows) =>
    match p.run refused d.files with
    | (after, .error fault) => ({ d with files := after }, .error (.io fault))
    | (after, .ok ()) =>
      ({ d with files := after }, .ok { guid := g, kind := schema.kind, rows, shards := 1, path := p.target })

/-- A name for assembling the shard directory of a guid, which is free in the root directory once that is there. An
empty root means the working directory, where an empty path leads nowhere. -/
def freshStagingName (d : UnorderedDisk) (g : Guid) : String :=
  match (d.files.makeDirectories d.config.root).1.list (d.config.root.entry ".") with
  | .ok entries => GraphDisk.freshStagingName entries g.text
  | .error _ => GraphDisk.freshStagingName [] g.text

def externalize (d : UnorderedDisk) (g : Guid) (first second : Option Guid) :
    UnorderedDisk × Except Error Summary :=
  d.externalizeAs .none (d.freshStagingName g) g first second

/-! ## Reading -/

/-- The data files of a shard directory. If a marker is asked for there has to be one. -/
def listing (m : Machine) (d : UnorderedDisk) (directory : Path) : Except Error Listing :=
  match m.list d.files directory with
  | .error fault => .error (.io fault)
  | .ok entries =>
    let l := Listing.ofEntries directory d.config.marker d.config.ordering entries
    if d.config.requireMarker && !l.hasMarker then .error (.incompleteDirectory directory) else .ok l

def readFile (m : Machine) (d : UnorderedDisk) (s : Schema) (p : Path) : Except Error (List s.Row) := do
  let shard ← m.openShard d.files p
  match shard.readRowsBy d.config.codec (m.order p) s (m.noThreads p) m.room with
  | .ok rows => return rows
  | .error e => throw (e.inFile p)

/-- The rows of all data files of a shard directory, file by file, and the number of files. -/
def readRows (m : Machine) (d : UnorderedDisk) (s : Schema) (l : Listing) : Except Error (List s.Row × Nat) := do
  let blocks ← l.paths.mapM (d.readFile m s)
  return (blocks.flatten, l.names.length)

/-- The entity that a shard directory holds, with a summary. The vertex sets that its kind needs are looked up before
the directory is listed. -/
def rebuild (m : Machine) (d : UnorderedDisk) (g : Guid) (kind : Kind)
    (first second : Option Guid) : Except Error (Entity × Summary) := do
  let directory ← d.shardDirectory g
  -- a failure to list comes to light only where the files are asked for, after the vertex sets
  let files := d.listing m directory
  let summary (rows shards : Nat) : Summary := { guid := g, kind, rows, shards, path := directory }
  match kind with
  | .scalar => throw (.unsupportedKind kind.name)
  | .vertexSet =>
    let (rows, shards) ← d.readRows m .vertex (← files)
    return (.vertexSet (← VertexSet.ofRows d.config.duplicates g rows), summary rows.length shards)
  | .edgeBundle =>
    let src ← d.store.dependency first
    let dst ← d.store.dependency second
    let (rows, shards) ← d.readRows m .edge (← files)
    return (.edgeBundle (← EdgeBundle.ofRows src dst rows), summary rows.length shards)
  | .doubleAttribute =>
    let vertices ← d.store.dependency first
    let (rows, shards) ← d.readRows m .doubleAttribute (← files)
    return (.doubleAttribute (← Attribute.ofRows Double.zero vertices rows), summary rows.length shards)
  | .stringAttribute =>
    let vertices ← d.store.dependency first
    let (rows, shards) ← d.readRows m .stringAttribute (← files)
    return (.stringAttribute (← Attribute.ofRows "" vertices rows), summary rows.length shards)
  | .pairAttribute =>
    let vertices ← d.store.dependency first
    let (rows, shards) ← d.readRows m .pairAttribute (← files)
    return (.pairAttribute (← Attribute.ofRows (Double.zero, Double.zero) vertices rows), summary rows.length shards)

/-- Builds an entity from its shard directory and makes it resident, on a given machine. -/
def internalizeOn (m : Machine) (d : UnorderedDisk) (g : Guid) (kind : Kind)
    (first second : Option Guid) : UnorderedDisk × Except Error Summary :=
  match d.rebuild m g kind first second with
  | .error e => (d, .error e)
  | .ok (entity, summary) => ({ d with store := d.store.install g entity }, .ok summary)

def internalize (d : UnorderedDisk) (g : Guid) (kind : Kind) (first second : Option Guid) :
    UnorderedDisk × Except Error Summary :=
  d.internalizeOn {} g kind first second

/-! ## Requests -/

def writeAs (refused : Refusals) (stagingName : String) (d : UnorderedDisk) (r : WriteRequest) :
    UnorderedDisk × Except Error Reply :=
  let (after, outcome) :=
    d.externalizeAs refused stagingName r.guid (Guid.orNone r.first) (Guid.orNone r.second)
  (after, outcome.map fun _ => {})

def write (d : UnorderedDisk) (r : WriteRequest) : UnorderedDisk × Except Error Reply :=
  d.writeAs .none (d.freshStagingName r.guid) r

def readOn (m : Machine) (d : UnorderedDisk) (r : ReadRequest) : UnorderedDisk × Except Error Reply :=
  match Kind.ofName? r.kind with
  | none => (d, .error (.unsupportedKind r.kind))
  | some kind =>
    let (after, outcome) := d.internalizeOn m r.guid kind (Guid.orNone r.first) (Guid.orNone r.second)
    (after, outcome.map fun _ => {})

def read (d : UnorderedDisk) (r : ReadRequest) : UnorderedDisk × Except Error Reply := d.readOn {} r

/-- Makes an entity resident; the entity that was replaced is handed back. -/
def install (d : UnorderedDisk) (g : Guid) (e : Entity) : UnorderedDisk × Option Entity :=
  ({ d with store := d.store.install g e }, d.store.get? g)

end UnorderedDisk

end GraphDisk
