import GraphDisk.FileSystem
import GraphDisk.Json.Fields
import GraphDisk.Json.Printer
import GraphDisk.Json.Reader

/-!
# Configuration

A configuration file is a JSON object. Every field has a default, so a file needs to name only what it changes. The
codec's numbers say which files are worked on by several threads. They do not change the rows that are read, nor whether
a file can be read if threads can be started; but of several row groups that cannot be read, threads may come upon any
first.
-/

namespace GraphDisk

inductive ShardOrdering where
  /-- By the bytes of their names. -/
  | lexicographic
  /-- As the directory lists them. -/
  | listing
deriving DecidableEq, Repr

namespace ShardOrdering

def name : ShardOrdering → String
  | lexicographic => "lexicographic"
  | listing => "listing"

def ofName? : String → Option ShardOrdering
  | "lexicographic" => some lexicographic
  | "listing" => some listing
  | _ => none

end ShardOrdering

/-- What is done about an external id that occurs twice in a vertex set. -/
inductive DuplicatePolicy where
  /-- Its last position counts. -/
  | lastWriteWins
  /-- The vertex set is refused. -/
  | reject
deriving DecidableEq, Repr

namespace DuplicatePolicy

def name : DuplicatePolicy → String
  | lastWriteWins => "last_write_wins"
  | reject => "reject"

def ofName? : String → Option DuplicatePolicy
  | "last_write_wins" => some lastWriteWins
  | "reject" => some reject
  | _ => none

end DuplicatePolicy

/-- How much work on one file may be spread over threads. -/
structure CodecConfig where
  workers : UInt64 := 4
  /-- Files with fewer rows are not spread. -/
  parallelThreshold : UInt64 := 65536
deriving DecidableEq, Repr

structure Config where
  /-- The directory that holds a shard directory for each guid. -/
  root : Path := ⟨"data/unordered"⟩
  /-- The name of the file that marks a shard directory as complete. -/
  marker : String := "_SUCCESS"
  /-- Whether a shard directory without the marker is refused. -/
  requireMarker : Bool := false
  ordering : ShardOrdering := .lexicographic
  duplicates : DuplicatePolicy := .lastWriteWins
  codec : CodecConfig := {}
deriving DecidableEq, Repr

/-! ## JSON -/

open Json (Document Value)

namespace CodecConfig

def fieldNames : List String := ["workers", "parallel_threshold"]

/-- Reads the numbers of a codec; what is left out has its default. -/
def ofDocument? (d : Document) : Option CodecConfig := do
  let [workers, threshold] ← d.fields? fieldNames | none
  let byDefault : CodecConfig := {}
  return {
    workers := ← Document.orDefault? Document.natural? byDefault.workers workers
    parallelThreshold := ← Document.orDefault? Document.natural? byDefault.parallelThreshold threshold }

def value (c : CodecConfig) : Value :=
  .object [("workers", .number (.natural c.workers)), ("parallel_threshold", .number (.natural c.parallelThreshold))]

end CodecConfig

namespace Config

def fieldNames : List String :=
  ["unordered_data_dir", "completion_marker", "require_completion_marker", "shard_ordering", "duplicate_ids", "codec"]

def ofDocument? (d : Document) : Option Config := do
  let [root, marker, require, ordering, duplicates, codec] ← d.fields? fieldNames | none
  let byDefault : Config := {}
  return {
    root := ← Document.orDefault? (fun d => d.string?.map Path.mk) byDefault.root root
    marker := ← Document.orDefault? Document.string? byDefault.marker marker
    requireMarker := ← Document.orDefault? Document.bool? byDefault.requireMarker require
    ordering := ← Document.orDefault? (fun d => d.name?.bind ShardOrdering.ofName?) byDefault.ordering ordering
    duplicates := ← Document.orDefault? (fun d => d.name?.bind DuplicatePolicy.ofName?) byDefault.duplicates duplicates
    codec := ← Document.orDefault? CodecConfig.ofDocument? byDefault.codec codec }

def value (c : Config) : Value :=
  .object [
    ("unordered_data_dir", .string c.root.text),
    ("completion_marker", .string c.marker),
    ("require_completion_marker", .bool c.requireMarker),
    ("shard_ordering", .string c.ordering.name),
    ("duplicate_ids", .string c.duplicates.name),
    ("codec", c.codec.value)]

def text (c : Config) : String := c.value.text

def parse? (s : String) : Option Config := (Document.parse? s).bind ofDocument?

/-! ## Checks -/

/-- Whether a completion marker is a plain file name. -/
def isPlainName (name : String) : Bool :=
  !(name == "" || name == "." || name == ".." || name.toList.any fun c => c == '/' || c == '\\')

def fault? (c : Config) : Option ConfigFault :=
  if c.codec.workers = 0 then some .noWorkers
  else if isPlainName c.marker then none
  else some (.marker c.marker)

def validate (c : Config) : Except Error Config :=
  match c.fault? with
  | some fault => .error (.invalidConfig fault)
  | none => .ok c

def ofText (s : String) : Except Error Config :=
  match parse? s with
  | some c => c.validate
  | none => .error .malformedJson

def load (fs : FileSystem) (p : Path) : Except Error Config :=
  match fs.readText p with
  | .ok s => ofText s
  | .error fault => .error (.io fault)

/-- The default configuration for a disk in the entry `unordered` of a directory. -/
def withRoot (directory : Path) : Config := { root := directory.entry "unordered" }

end Config

end GraphDisk
