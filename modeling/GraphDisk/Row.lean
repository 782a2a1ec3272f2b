import GraphDisk.Table

/-!
# Shard rows

Each schema has its type of rows. `Schema.Row.cell` gives the cell of a row for a column, which is how rows are
written; `Schema.Row.ofRecord` builds a row from a record and the positions of the schema's columns in it, which is how
rows are read.
-/

namespace GraphDisk

structure VertexRow where
  id : Int64
deriving DecidableEq, Repr

/-- An edge, with the external ids of its ends. -/
structure EdgeRow where
  id : Int64
  src : Int64
  dst : Int64
deriving DecidableEq, Repr

structure AttributeRow (α : Type) where
  id : Int64
  value : α
deriving DecidableEq, Repr

abbrev Schema.Row : Schema → Type
  | .vertex => VertexRow
  | .edge => EdgeRow
  | .stringAttribute => AttributeRow String
  | .doubleAttribute => AttributeRow Double
  | .pairAttribute => AttributeRow (Double × Double)

namespace Schema.Row

/-- The cell of a row in a column. A column number beyond the last stands for the last column. -/
def cell : (s : Schema) → s.Row → Nat → Cell
  | .vertex, r, _ => .int64 r.id
  | .edge, r, 0 => .int64 r.id
  | .edge, r, 1 => .int64 r.src
  | .edge, r, _ => .int64 r.dst
  | .stringAttribute, r, 0 => .int64 r.id
  | .stringAttribute, r, _ => .utf8 r.value
  | .doubleAttribute, r, 0 => .int64 r.id
  | .doubleAttribute, r, _ => .double r.value
  | .pairAttribute, r, 0 => .int64 r.id
  | .pairAttribute, r, 1 => .double r.value.1
  | .pairAttribute, r, _ => .double r.value.2

/-- The field of a record for a column, given the positions of the columns. -/
def fieldAt (record : Record) (positions : List Nat) (column : Nat) : Except TableFault Field :=
  match positions[column]? with
  | some position => record.at position
  | none => .error .unreadable

/-- The row that a record holds, given the positions of the schema's columns. The columns are read in the order of the
schema, so the first that cannot be read decides. -/
def ofRecord (s : Schema) (record : Record) (positions : List Nat) : Except TableFault s.Row :=
  let long (column : Nat) : Except TableFault Int64 := fieldAt record positions column >>= Field.toInt64
  let double (column : Nat) : Except TableFault Double := fieldAt record positions column >>= Field.toDouble
  let text (column : Nat) : Except TableFault String := fieldAt record positions column >>= Field.toText
  match s with
  | .vertex => do return { id := ← long 0 }
  | .edge => do return { id := ← long 0, src := ← long 1, dst := ← long 2 }
  | .stringAttribute => do return { id := ← long 0, value := ← text 1 }
  | .doubleAttribute => do return { id := ← long 0, value := ← double 1 }
  | .pairAttribute => do return { id := ← long 0, value := (← double 1, ← double 2) }

end Schema.Row

namespace Cell

def toInt64 : Cell → Except Error Int64
  | int64 n => .ok n
  | c => .error (.invalidFormat (.cellType c .int64))

def toDouble : Cell → Except Error Double
  | double x => .ok x
  | c => .error (.invalidFormat (.cellType c .double))

def toText : Cell → Except Error String
  | utf8 s => .ok s
  | c => .error (.invalidFormat (.cellType c .utf8))

/-- How a cell is stored in a column of a type. -/
def store (type : ColumnType) (c : Cell) : Except Error StoredValue :=
  match type with
  | .int64 => return .integer (← c.toInt64)
  | .double => return .double (← c.toDouble)
  | .utf8 => return .bytes (← c.toText).toUTF8

end Cell

namespace Table

/-- Who writes the tables of this library. -/
def writer : String := "sphynx 0.3.0"

def gather (s : Schema) (rows : List s.Row) (column : Nat) (type : ColumnType) :
    Except Error (Array (Option StoredValue)) := do
  let values ← rows.mapM fun r => (Schema.Row.cell s r column).store type
  return (values.map some).toArray

/-- The table of some rows: one row group, with the columns of the schema in their order. -/
def ofRows (s : Schema) (rows : List s.Row) : Except Error Table := do
  let columns ← s.columns.zipIdx.mapM fun (column, i) => gather s rows i column.type
  return { elements := s.elements, groups := [⟨columns, rows.length⟩], stated := rows.length, createdBy := some writer }

end Table

/-! ## Collecting rows -/

/-- Rows that are collected for a shard. -/
structure RowBuffer (s : Schema) where
  rows : Array s.Row

namespace RowBuffer

variable {s : Schema}

def empty : RowBuffer s := ⟨#[]⟩

def add (b : RowBuffer s) (r : s.Row) : RowBuffer s := ⟨b.rows.push r⟩

def extend (b : RowBuffer s) (rs : List s.Row) : RowBuffer s := rs.foldl add b

def toList (b : RowBuffer s) : List s.Row := b.rows.toList

def size (b : RowBuffer s) : Nat := b.rows.size

def isEmpty (b : RowBuffer s) : Bool := b.rows.isEmpty

def table (b : RowBuffer s) : Except Error Table := Table.ofRows s b.toList

@[simp] theorem toList_empty : (empty : RowBuffer s).toList = [] := rfl

@[simp] theorem toList_add (b : RowBuffer s) (r : s.Row) : (b.add r).toList = b.toList ++ [r] := by
  simp [toList, add]

@[simp] theorem toList_extend (b : RowBuffer s) (rs : List s.Row) : (b.extend rs).toList = b.toList ++ rs := by
  unfold extend
  induction rs generalizing b with
  | nil => simp
  | cons r rs ih => rw [List.foldl_cons, ih, toList_add]; simp

end RowBuffer

end GraphDisk
