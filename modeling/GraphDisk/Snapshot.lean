import GraphDisk.FileSystem
import GraphDisk.Json.Fields
import GraphDisk.Json.Reader

/-!
# Snapshots of a file system

A snapshot is a JSON text that describes a file system. A node is an object with one member, which says what the node
is: `file` with its bytes in hexadecimal, `link` with its target, `directory` with the nodes of its entries by name, or
`table` with a columnar table. A table has the members `elements`, `groups`, `rows` and `writer`; the command line works
on snapshots.
-/

namespace GraphDisk.Snapshot

open Json (Document)

/-! ## Values -/

/-- The bytes that pairs of hexadecimal digits stand for. -/
def bytesOf? : List Char → Option (List UInt8)
  | [] => some []
  | a :: b :: rest => do
    let n := (← Json.Reader.hexDigit? a) * 16 + (← Json.Reader.hexDigit? b)
    return n.toUInt8 :: (← bytesOf? rest)
  | [_] => none

def bytes? (d : Document) : Option ByteArray := do
  let bs ← bytesOf? (← d.string?).toList
  return ⟨bs.toArray⟩

def integer? : Document → Option Int
  | .number n =>
    match n.number? with
    | some (.natural k) => some k.toNat
    | some (.negative k) => some k.toInt
    | _ => none
  | _ => none

def items? {α : Type} (read : Document → Option α) : Document → Option (List α)
  | .array ds => ds.mapM read
  | _ => none

/-- A stored value, or none: a whole number, a truth value, or an object whose one member is `double`, the bits in
hexadecimal, or `bytes`. -/
def stored? : Document → Option (Option StoredValue)
  | .null => some none
  | .bool b => some (some (.flag b))
  | .object [(some "double", d)] => do
    let bs ← bytes? d
    if bs.size = 8 then return some (.double ⟨bs.toList.foldl (fun n b => n * 256 + b.toUInt64) 0⟩)
    else none
  | .object [(some "bytes", d)] => do return some (.bytes (← bytes? d))
  | d => do return some (.integer (Int64.ofInt (← integer? d)))

/-! ## Tables -/

mutual

/-- An element: `[name, repetition, [element, …]]` or `[name, repetition, physical type, tag, scale]`, after which a
precision may stand. -/
def element? : Document → Option Element
  | .array [name, repetition, .array elements] => do
    return .group (← name.string?) (← Repetition.ofName? (← repetition.string?)) (← elements? elements)
  | .array [name, repetition, physical, tag, scale] => do
    return .leaf (← name.string?) (← Repetition.ofName? (← repetition.string?))
      (← PhysicalType.ofName? (← physical.string?)) (.ofName (← scale.natural?).toNat (← tag.string?))
  | .array [name, repetition, physical, tag, scale, precision] => do
    return .leaf (← name.string?) (← Repetition.ofName? (← repetition.string?))
      (← PhysicalType.ofName? (← physical.string?))
      (.ofName (← scale.natural?).toNat (← tag.string?) (← precision.natural?).toNat)
  | _ => none

def elements? : List Document → Option (List Element)
  | [] => some []
  | d :: ds => do return (← element? d) :: (← elements? ds)

end

/-- A row group: the number of rows that the footer states, and the columns. -/
def group? (d : Document) : Option RowGroup := do
  let [stated, columns] ← d.fields? ["rows", "columns"] | none
  let stated ← Document.required? Document.natural? stated
  let columns ← Document.required? (items? (items? stored?)) columns
  return ⟨columns.map List.toArray, stated.toNat⟩

def table? (d : Document) : Option Table := do
  let [elements, groups, stated, createdBy] ← d.fields? ["elements", "groups", "rows", "writer"] | none
  let some (.array elements) := elements | none
  return {
    elements := ← elements? elements
    groups := ← Document.required? (items? group?) groups
    stated := ← Document.required? integer? stated
    createdBy := ← Document.optional? Document.string? createdBy }

/-! ## Nodes -/

mutual

def node? : Document → Option Node
  | .object [(some "file", d)] => do return .file (.bytes (← bytes? d))
  | .object [(some "link", d)] => do return .link ⟨← d.string?⟩
  | .object [(some "table", d)] => do return .file (.table (← table? d))
  | .object [(some "directory", .object ms)] => do return .directory (← entries? ms)
  | _ => none

def entries? : List (Json.Spelling × Document) → Option Directory
  | [] => some []
  | (name, d) :: rest => do
    let node ← node? d
    return (← entries? rest).insert (← name) node

end

/-- The file system that a text describes: its top directory. -/
def parse? (text : String) : Option FileSystem := do
  match ← node? (← Document.parse? text) with
  | .directory entries => return { top := entries }
  | _ => none

end GraphDisk.Snapshot
