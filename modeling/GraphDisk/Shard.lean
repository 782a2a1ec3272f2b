import GraphDisk.Row

/-!
# Shards: tables whose columns are those of a schema

`Schema.positions` finds the columns of a schema in a layout, in any order, and `Schema.detect` the schema whose
columns a layout has. A `Shard` is a table together with its schema and the positions of the columns. Its rows can be
read as rows of the schema, one row group after the other (`Shard.readRows`) or by several threads
(`Shard.readRowsBy` in `GraphDisk.Workers`), or shown as text (`Shard.formatRows`).
-/

namespace GraphDisk

/-! ## Recognising a schema -/

namespace Schema

/-- Whether a leaf can be a column: same name, stored as the column needs it, one value a record. -/
def accepts (column : Column) (leaf : Leaf) : Bool :=
  leaf.name == column.name && leaf.physical == column.type.physical && !leaf.repeats

def position (s : Schema) (leaves : List Leaf) (column : Column) : Except FormatFault Nat :=
  match leaves.findIdx? (accepts column) with
  | some i => .ok i
  | none => .error (.missingColumn s column)

/-- The positions in a file of the columns of a schema. There have to be as many leaves as columns, and as many
elements at the top as leaves. -/
def positions (s : Schema) (elements : List Element) : Except FormatFault (List Nat) :=
  let leaves := Leaf.ofElements elements
  if elements.length = leaves.length ∧ leaves.length = s.columns.length then s.columns.mapM (s.position leaves)
  else .error (.columnCount s leaves.length)

def detect (elements : List Element) : Except FormatFault Schema :=
  match all.find? fun s => (s.positions elements).isOk with
  | some s => .ok s
  | none => .error (.unknownColumns (Leaf.ofElements elements))

end Schema

/-! ## Shards -/

/-- A table whose columns are those of a schema. -/
structure Shard where
  table : Table
  schema : Schema
  /-- The position in the table of each column of the schema. -/
  positions : List Nat

/-- The failure as a fault of the file at a path, where it is about what the file holds. -/
def Error.inFile (path : Path) : Error → Error
  | .table .halt => .table .halt
  | .invalidFormat fault => .invalidFormat (.inFile path fault)
  | .table fault => .invalidFormat (.inFile path (.table fault))
  | e => e

/-! ## Room for rows -/

/-- The most bytes that can be asked for at once. -/
def maxAllocation : Nat := 9223372036854775807

namespace Schema

/-- There is room for as many rows as are stated, if that many bytes can be had at once. Rows that are there have found
room, so only a number that is too great can ask for too much. -/
def Reservable (s : Schema) (room held stated : Nat) : Prop := stated ≤ held ∨ stated * s.rowSize ≤ room

instance (s : Schema) (room held stated : Nat) : Decidable (s.Reservable room held stated) :=
  inferInstanceAs (Decidable (_ ∨ _))

/-- Makes room for as many rows as are stated, which ends the program if there is none. -/
def reserve (s : Schema) (room held stated : Nat) : Except Error Unit :=
  if s.Reservable room held stated then .ok () else .error (.table .halt)

end Schema

namespace Shard

/-- A table as a shard. A file whose layout has no element at all can be written, but it cannot be read as a table. -/
def ofTable (t : Table) : Except FormatFault Shard := do
  if t.elements.isEmpty then throw (.table .unreadable)
  let s ← Schema.detect t.elements
  return ⟨t, s, ← s.positions t.elements⟩

def decode (shard : Shard) (s : Schema) (values : List (Option StoredValue)) : Except Error s.Row :=
  match (shard.table.record values >>= fun r => Schema.Row.ofRecord s r shard.positions) with
  | .ok row => .ok row
  | .error fault => .error (.table fault)

/-- The rows of one row group; the footer must not state more rows than there are. -/
def readGroup (shard : Shard) (s : Schema) (number : Nat) (g : RowGroup) (room : Nat := maxAllocation) :
    Except Error (List s.Row) := do
  -- before any row is looked at
  s.reserve room g.held g.stated
  let rows ← g.rows.mapM (shard.decode s)
  if rows.length = g.stated then return rows
  else throw (.invalidFormat (.rowCount number rows.length g.stated))

def readRows (shard : Shard) (s : Schema) (room : Nat := maxAllocation) : Except Error (List s.Row) :=
  if shard.schema = s then do
    let groups ← shard.table.groups.zipIdx.mapM fun (g, i) => shard.readGroup s i g room
    s.reserve room groups.flatten.length shard.table.rowCount
    return groups.flatten
  else .error (.invalidFormat (.otherSchema s shard.schema))

/-- A field as it is written. A field that cannot be written ends the program. -/
def written (render : Field → Option String) (f : Field) : Except TableFault String :=
  match render f with
  | some text => .ok text
  | none => .error .halt

/-- The texts of a row's fields in the order of the schema, given how a field is written. -/
def formatRow (shard : Shard) (render : Field → Option String) (values : List (Option StoredValue)) :
    Except Error (List String) :=
  match (shard.table.record values >>= fun r => shard.positions.mapM fun i => r.at i >>= written render) with
  | .ok texts => .ok texts
  | .error fault => .error (.table fault)

/-- The rows of one group as texts, behind those that are shown already. Once the limit is reached, no row is looked at
any more, and `true` says that no group needs to be. -/
def formatGroup (shard : Shard) (render : Field → Option String) (limit : Nat) :
    List (List (Option StoredValue)) → Array (List String) → Except Error (Bool × Array (List String))
  | [], shown => .ok (false, shown)
  | values :: rest, shown =>
    if limit ≤ shown.size then .ok (true, shown)
    else do
      let texts ← shard.formatRow render values
      shard.formatGroup render limit rest (shown.push texts)

def formatGroups (shard : Shard) (render : Field → Option String) (limit : Nat) :
    List RowGroup → Array (List String) → Except Error (Array (List String))
  | [], shown => .ok shown
  | g :: rest, shown => do
    let (full, shown) ← shard.formatGroup render limit g.rows shown
    if full then return shown else shard.formatGroups render limit rest shown

def formatRows (shard : Shard) (limit : Nat) (render : Field → Option String := Field.text) :
    Except Error (List (List String)) :=
  return (← shard.formatGroups render limit shard.table.groups #[]).toList

end Shard

end GraphDisk
