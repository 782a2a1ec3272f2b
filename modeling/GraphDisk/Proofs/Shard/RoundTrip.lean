import GraphDisk.Proofs.Outcome
import GraphDisk.Shard

/-!
# Rows that were written are read again

Writing rows never fails: every cell of a row belongs in its column, so the table of some rows is `Table.holding`
(`Table.ofRows_eq`). Such a table is a shard of its schema (`Shard.ofTable_holding`), and what is read from it are the
rows that were written, bit by bit (`Shard.readRows_holding`).
-/

namespace GraphDisk

/-! ## Writing -/

/-- How a cell is stored. -/
def Cell.stored : Cell → StoredValue
  | int64 n => .integer n
  | double x => .double x
  | utf8 s => .bytes s.toUTF8

theorem Cell.store_eq {type : ColumnType} {c : Cell} (h : c.type = type) : c.store type = .ok c.stored := by
  subst h
  cases c <;> rfl

/-- **The cells of a row belong in their columns.** -/
theorem Schema.Row.type_cell {s : Schema} {column : Column} {i : Nat} (h : (column, i) ∈ s.columns.zipIdx) (r : s.Row) :
    (cell s r i).type = column.type := by
  cases s <;> simp [columns, List.zipIdx_cons] at h <;> grind [cell, Cell.type]

namespace Schema.Row

/-- The stored values of a row, in the order of the columns. -/
def values (s : Schema) (r : s.Row) : List (Option StoredValue) :=
  s.columns.zipIdx.map fun (_, i) => some (cell s r i).stored

end Schema.Row

namespace Table

/-- The values of the columns of some rows. -/
def columnsOf (s : Schema) (rows : List s.Row) : List (Array (Option StoredValue)) :=
  s.columns.zipIdx.map fun (_, i) => (rows.map fun r => some (Schema.Row.cell s r i).stored).toArray

/-- The table that holds some rows. -/
def holding (s : Schema) (rows : List s.Row) : Table :=
  { elements := s.elements
    groups := [⟨columnsOf s rows, rows.length⟩]
    stated := rows.length
    createdBy := some writer }

/-- **No cell of a column is of the wrong type.** -/
theorem gather_eq {s : Schema} {column : Column} {i : Nat} (h : (column, i) ∈ s.columns.zipIdx) (rows : List s.Row) :
    gather s rows i column.type = .ok (rows.map fun r => some (Schema.Row.cell s r i).stored).toArray := by
  have hstore : rows.mapM (fun r => (Schema.Row.cell s r i).store column.type) =
      .ok (rows.map fun r => (Schema.Row.cell s r i).stored) :=
    mapM_of_ok fun r _ => Cell.store_eq (Schema.Row.type_cell h r)
  unfold gather
  rw [hstore]
  simp [bind, Except.bind, pure, Except.pure]

/-- **Writing rows never fails.** -/
theorem ofRows_eq (s : Schema) (rows : List s.Row) : ofRows s rows = .ok (holding s rows) := by
  have hgather : ∀ c ∈ s.columns.zipIdx, gather s rows c.2 c.1.type =
      .ok (rows.map fun r => some (Schema.Row.cell s r c.2).stored).toArray := fun _ hc => gather_eq hc rows
  unfold ofRows
  rw [mapM_of_ok hgather]
  rfl

theorem held_columnsOf (s : Schema) (rows : List s.Row) :
    RowGroup.held ⟨columnsOf s rows, rows.length⟩ = rows.length := by
  cases s <;> simp [RowGroup.held, columnsOf, Schema.columns]

/-- The rows of the table are those that were written. -/
theorem rows_columnsOf (s : Schema) (rows : List s.Row) :
    RowGroup.rows ⟨columnsOf s rows, rows.length⟩ = rows.map (Schema.Row.values s) := by
  unfold RowGroup.rows
  rw [held_columnsOf, Nat.min_self]
  apply List.ext_getElem
  · simp
  · intro i h₁ h₂
    rw [List.getElem_map, List.getElem_map, List.getElem_range]
    have hi : i < rows.length := by simpa using h₂
    simp [RowGroup.row, columnsOf, Schema.Row.values, hi]

end Table

/-! ## Reading -/

theorem fromUTF8?_toUTF8 (s : String) : String.fromUTF8? s.toUTF8 = some s := by
  unfold String.fromUTF8?
  exact dif_pos s.isValidUTF8

theorem fromUTF8?_eq_some {data : ByteArray} {s : String} (h : String.fromUTF8? data = some s) : data = s.toUTF8 := by
  unfold String.fromUTF8? at h
  split at h
  · cases h
    rfl
  · cases h

namespace Element

variable {f : Field} {fs : List (String × Field)} {values rest rest' : List (Option StoredValue)} {v : StoredValue}
  {physical : PhysicalType} {tag : Tag}

theorem field_leaf (name : String) (r : Repetition) (rest : List (Option StoredValue))
    (h : Field.ofStored physical tag v = .ok f) :
    field (.leaf name r physical tag) (some v :: rest) = .ok (f, rest) := by
  rw [field, h]
  rfl

theorem fields_nil (values : List (Option StoredValue)) : fields [] values = .ok ([], values) := by rw [fields]

theorem fields_cons {e : Element} {es : List Element} (h : field e values = .ok (f, rest))
    (h' : fields es rest = .ok (fs, rest')) : fields (e :: es) values = .ok ((e.name, f) :: fs, rest') := by
  rw [fields, h]
  simp only [bind, Except.bind, h']
  rfl

end Element

namespace Schema

variable {s : Schema} {room held stated : Nat}

theorem reserve_eq_ok {u : Unit} : s.reserve room held stated = .ok u ↔ s.Reservable room held stated := by
  unfold reserve
  split <;> simp_all

theorem reserve_eq_error {e : Error} :
    s.reserve room held stated = .error e ↔ ¬ s.Reservable room held stated ∧ .table .halt = e := by
  unfold reserve
  split <;> simp_all

/-- Rows that are there have found room. -/
theorem reserve_of_le (h : stated ≤ held) : s.reserve room held stated = .ok () := reserve_eq_ok.mpr (Or.inl h)

theorem detect_elements (s : Schema) : detect s.elements = .ok s := by cases s <;> rfl

theorem positions_elements (s : Schema) :
    s.positions s.elements = .ok (List.range s.columns.length) := by cases s <;> rfl

end Schema

theorem RowGroup.length_rows (g : RowGroup) : g.rows.length = min g.stated g.held := by
  rw [rows, List.length_map, List.length_range]

namespace Shard

variable {s : Schema} {rows : List s.Row} {shard : Shard} {number room : Nat} {g : RowGroup}

/-- **A row group is read** iff all its rows are decoded and no more rows are stated than there are. -/
theorem readGroup_eq_ok : shard.readGroup s number g room = .ok rows ↔
    g.rows.mapM (shard.decode s) = .ok rows ∧ g.stated ≤ g.held := by
  have hlength : g.rows.mapM (shard.decode s) = .ok rows → rows.length = min g.stated g.held := fun h => by
    rw [← (mapM_eq_ok.mp h).length_eq, g.length_rows]
  unfold readGroup
  constructor
  · intro h
    obtain ⟨-, -, h⟩ := bind_eq_ok.mp h
    obtain ⟨rows', hrows, h⟩ := bind_eq_ok.mp h
    split at h
    · rename_i hstated
      cases h
      exact ⟨hrows, by have := hlength hrows; omega⟩
    · cases h
  · rintro ⟨hrows, hheld⟩
    have hstated : rows.length = g.stated := by have := hlength hrows; omega
    refine bind_eq_ok.mpr ⟨(), Schema.reserve_of_le hheld, bind_eq_ok.mpr ⟨rows, hrows, ?_⟩⟩
    rw [if_pos hstated]
    rfl

/-- **A shard is read** iff all its row groups are read and there is room for all rows. -/
theorem readRows_eq_ok (hs : shard.schema = s) : shard.readRows s room = .ok rows ↔
    ∃ groups, shard.table.groups.zipIdx.mapM (fun x => shard.readGroup s x.2 x.1 room) = .ok groups ∧
      s.Reservable room groups.flatten.length shard.table.rowCount ∧ groups.flatten = rows := by
  unfold readRows
  rw [if_pos hs, bind_eq_ok]
  refine exists_congr fun groups => and_congr_right fun _ => ?_
  rw [bind_eq_ok]
  simp only [Schema.reserve_eq_ok, exists_const, pure, Except.pure, Except.ok.injEq]

/-- The shard of some rows. -/
def holding (s : Schema) (rows : List s.Row) : Shard := ⟨Table.holding s rows, s, List.range s.columns.length⟩

theorem ofTable_holding (s : Schema) (rows : List s.Row) : ofTable (Table.holding s rows) = .ok (holding s rows) := by
  have hne : (Table.holding s rows).elements.isEmpty = false := by cases s <;> rfl
  unfold ofTable
  rw [hne]
  simp only [Table.holding, Schema.detect_elements, bind, Except.bind, Schema.positions_elements]
  rfl

/-- The values of a row make that row again. -/
theorem decode_values (s : Schema) (rows : List s.Row) (r : s.Row) :
    (holding s rows).decode s (Schema.Row.values s r) = .ok r := by
  cases s with
  | vertex => rfl
  | edge => rfl
  | doubleAttribute => rfl
  | pairAttribute => rfl
  | stringAttribute =>
    have htext : Field.ofStored .byteArray .utf8 (.bytes r.value.toUTF8) = .ok (.string r.value) := by
      rw [Field.ofStored, Field.ofStored.asText, fromUTF8?_toUTF8]
    have hrecord : (Table.holding .stringAttribute rows).record (Schema.Row.values .stringAttribute r) =
        .ok [("id", .long r.id), ("value", .string r.value)] := by
      have hid : Element.field (.leaf "id" .required .int64 .plain)
          [some (.integer r.id), some (.bytes r.value.toUTF8)] = .ok (.long r.id, [some (.bytes r.value.toUTF8)]) := rfl
      have hvalue := Element.fields_cons (Element.field_leaf "value" .required [] htext) (Element.fields_nil [])
      have := Element.fields_cons hid hvalue
      exact congrArg (Except.map Prod.fst) this
    unfold decode
    rw [show (holding .stringAttribute rows).table = Table.holding .stringAttribute rows from rfl, hrecord]
    rfl

/-- **Rows that were written are read again**, all of them and in order. -/
theorem readRows_holding (s : Schema) (rows : List s.Row) (room : Nat) :
    (holding s rows).readRows s room = .ok rows := by
  have hrows : (rows.map (Schema.Row.values s)).mapM ((holding s rows).decode s) = .ok rows := by
    have hdecode : ∀ r ∈ rows, ((holding s rows).decode s ∘ Schema.Row.values s) r = .ok (id r) :=
      fun r _ => decode_values s rows r
    rw [List.mapM_map, mapM_of_ok hdecode, List.map_id]
  have hgroup : (holding s rows).readGroup s 0 ⟨Table.columnsOf s rows, rows.length⟩ room = .ok rows := by
    refine readGroup_eq_ok.mpr ⟨?_, Nat.le_of_eq (Table.held_columnsOf s rows).symm⟩
    rw [Table.rows_columnsOf, hrows]
  have hgroups : (holding s rows).table.groups.zipIdx.mapM
      (fun x => (holding s rows).readGroup s x.2 x.1 room) = .ok [rows] := by
    rw [show (holding s rows).table.groups.zipIdx = [(⟨Table.columnsOf s rows, rows.length⟩, 0)] from rfl]
    simp [hgroup, bind, Except.bind, pure, Except.pure]
  have hflat : [rows].flatten = rows := by simp
  have hcount : (holding s rows).table.rowCount ≤ [rows].flatten.length := by rw [hflat]; exact Nat.le_refl _
  exact (readRows_eq_ok (s := s) rfl).mpr ⟨[rows], hgroups, Or.inl hcount, hflat⟩

end Shard

end GraphDisk
