import GraphDisk.Proofs.Shard.RowTexts

/-!
# Indexing columns

A column is indexed without asking whether it is long enough, and a computation that goes beyond the end of one does not
give an error of the library but ends there (`Halt.outOfBounds`). So such a computation is told apart from the ones that
cannot end like that, and agrees with one of them iff all its indices are in range.

The columns of a schema are at positions of a file that were looked for in its layout. There are as many positions as
columns, and a record has a field at each of them (`Shard.InBounds`), so indexing positions and records gives the rows
of a file (`Shard.indexedRows_eq`) and their texts (`Shard.indexedFormatRows_eq`), by any number of threads and however
fields are written.
-/

namespace GraphDisk

variable {α β : Type}

/-! ## Computations that index -/

/-- Why a computation that indexes columns ends without a result. -/
inductive Halt where
  /-- With an error of the library, or for a reason that is not an index. -/
  | error (e : Error)
  /-- A column was indexed beyond its end. -/
  | outOfBounds
  /-- An entity of a kind was asked for that has been refused before. -/
  | catchAll
deriving DecidableEq, Repr

namespace Halt

/-- A result of the library as the result of a computation that indexes. -/
def lift (x : Except Error α) : Except Halt α := x.mapError Halt.error

@[simp] theorem lift_ok (a : α) : lift (.ok a) = .ok a := rfl

@[simp] theorem lift_error (e : Error) : lift (.error e : Except Error α) = .error (.error e) := rfl

theorem lift_bind (x : Except Error α) (k : α → Except Error β) : lift (x >>= k) = lift x >>= fun a => lift (k a) := by
  cases x <;> rfl

theorem lift_mapM (as : List α) (f : α → Except Error β) : lift (as.mapM f) = as.mapM fun a => lift (f a) := by
  induction as with
  | nil => rfl
  | cons a as ih =>
    simp only [List.mapM_cons, lift_bind, ih]
    rfl

theorem lift_foldlM {σ : Type} (f : σ → α → Except Error σ) : ∀ (steps : List α) (start : σ),
    lift (steps.foldlM f start) = steps.foldlM (fun state a => lift (f state a)) start
  | [], _ => rfl
  | a :: steps, start => by
    rw [List.foldlM_cons, List.foldlM_cons, lift_bind]
    exact congrArg _ (funext fun state => lift_foldlM f steps state)

/-- Threads put results together the same way if the tasks index columns. -/
theorem lift_run (order : Schedule) (spread : Bool) (tasks : List (Except Error α)) :
    lift (order.run spread tasks) = order.run spread (tasks.map lift) := by
  have hplace : (fun slots i => lift (Schedule.place tasks slots i)) = Schedule.place (tasks.map lift) := by
    funext slots i
    unfold Schedule.place
    rw [List.getElem?_map]
    rcases tasks[i]? with _ | (e | a) <;> rfl
  cases spread with
  | false =>
    have hmap : (tasks.map lift).mapM id = tasks.mapM fun task => lift (id task) := List.mapM_map
    exact (lift_mapM tasks id).trans hmap.symm
  | true =>
    have hcollect : order.collect (tasks.map lift) = lift (order.collect tasks) := by
      unfold Schedule.collect
      rw [List.length_map, ← hplace, ← lift_foldlM]
      cases (order tasks.length).foldlM (Schedule.place tasks) (List.replicate tasks.length none) <;> rfl
    exact hcollect.symm

/-- **A computation does not go beyond a column**, nor does it ask for a kind that has been refused before. -/
def Orderly (x : Except Halt α) : Prop := x ≠ .error .outOfBounds ∧ x ≠ .error .catchAll

theorem orderly_lift (x : Except Error α) : Orderly (lift x) := by
  cases x <;> simp [Orderly]

/-- A result of reading a table as the result of a computation that indexes. -/
def liftTable (x : Except TableFault α) : Except Halt α := lift (x.mapError .table)

theorem liftTable_bind (x : Except TableFault α) (k : α → Except TableFault β) :
    liftTable (x >>= k) = liftTable x >>= fun a => liftTable (k a) := by
  cases x <;> rfl

theorem liftTable_mapM (as : List α) (f : α → Except TableFault β) :
    liftTable (as.mapM f) = as.mapM fun a => liftTable (f a) := by
  induction as with
  | nil => rfl
  | cons a as ih =>
    simp only [List.mapM_cons, liftTable_bind, ih]
    rfl

end Halt

/-- What a column has at an index; there has to be something. -/
def bounded : Option α → Except Halt α
  | some a => .ok a
  | none => .error .outOfBounds

/-- Writes into a column at an index, which has to be one of its indices. -/
def writeAt (column : Array α) (i : Nat) (v : α) : Except Halt (Array α) :=
  if i < column.size then .ok (column.setIfInBounds i v) else .error .outOfBounds

theorem writeAt_of_lt {column : Array α} {i : Nat} (v : α) (h : i < column.size) :
    writeAt column i v = .ok (column.setIfInBounds i v) := if_pos h

/-! ## Rows of a file -/

/-- The field of a record for a column, where the positions and the record are indexed. -/
def indexedField (record : Record) (positions : List Nat) (column : Nat) : Except Halt Field := do
  let position ← bounded positions[column]?
  let (_, f) ← bounded record[position]?
  return f

/-- The row that a record holds, where the positions and the record are indexed. -/
def Schema.Row.indexedRecord (s : Schema) (record : Record) (positions : List Nat) : Except Halt s.Row :=
  let value {α : Type} (read : Field → Except TableFault α) (column : Nat) : Except Halt α := do
    let f ← indexedField record positions column
    Halt.liftTable (read f)
  match s with
  | .vertex => do return { id := ← value Field.toInt64 0 }
  | .edge => do return { id := ← value Field.toInt64 0, src := ← value Field.toInt64 1, dst := ← value Field.toInt64 2 }
  | .stringAttribute => do return { id := ← value Field.toInt64 0, value := ← value Field.toText 1 }
  | .doubleAttribute => do return { id := ← value Field.toInt64 0, value := ← value Field.toDouble 1 }
  | .pairAttribute => do
    return { id := ← value Field.toInt64 0, value := (← value Field.toDouble 1, ← value Field.toDouble 2) }

namespace Shard

/-- The row that the stored values of a table row make, where columns are indexed. -/
def indexedDecode (shard : Shard) (s : Schema) (values : List (Option StoredValue)) : Except Halt s.Row := do
  let record ← Halt.liftTable (shard.table.record values)
  Schema.Row.indexedRecord s record shard.positions

/-- The rows of one row group, where columns are indexed. -/
def indexedGroup (shard : Shard) (s : Schema) (number : Nat) (g : RowGroup) (room : Nat) :
    Except Halt (List s.Row) := do
  Halt.lift (s.reserve room g.held g.stated)
  let rows ← g.rows.mapM (shard.indexedDecode s)
  if rows.length = g.stated then return rows
  else throw (.error (.invalidFormat (.rowCount number rows.length g.stated)))

/-- All rows in file order, with a task for each row group, where columns are indexed. -/
def indexedRows (codec : CodecConfig) (order : Schedule) (shard : Shard) (s : Schema) (noThreads : Option IoFault)
    (room : Nat) : Except Halt (List s.Row) :=
  if shard.schema = s then do
    Halt.lift (startThreads (shard.spreads codec) noThreads)
    let groups ← order.run (shard.spreads codec)
      (shard.table.groups.zipIdx.map fun (g, i) => shard.indexedGroup s i g room)
    Halt.lift (s.reserve room groups.flatten.length shard.table.rowCount)
    return groups.flatten
  else .error (.error (.invalidFormat (.otherSchema s shard.schema)))

/-- The texts of a row's fields, where the record is indexed. -/
def indexedFormat (shard : Shard) (render : Field → Option String) (values : List (Option StoredValue)) :
    Except Halt (List String) := do
  let record ← Halt.liftTable (shard.table.record values)
  shard.positions.mapM fun i => do
    let (_, f) ← bounded record[i]?
    Halt.liftTable (written render f)

/-- The first rows as texts, where records are indexed. -/
def indexedFormatRows (shard : Shard) (limit : Nat) (render : Field → Option String) :
    Except Halt (List (List String)) :=
  (shard.table.rows.take limit).mapM (shard.indexedFormat render)

end Shard

/-! ## The positions of columns -/

/-- **The positions of a shard are in range**: one for each column of the schema, each of them that of an element. -/
structure Shard.InBounds (shard : Shard) : Prop where
  length : shard.positions.length = shard.schema.columns.length
  lt : ∀ i ∈ shard.positions, i < shard.table.elements.length

/-- A record has a field for each element. -/
theorem Element.length_fields : ∀ {elements : List Element} {values : List (Option StoredValue)}
    {record : List (String × Field)} {rest : List (Option StoredValue)},
    Element.fields elements values = .ok (record, rest) → record.length = elements.length
  | [], values, record, rest, h => by
    rw [Element.fields] at h
    cases h
    rfl
  | e :: es, values, record, rest, h => by
    rw [Element.fields] at h
    obtain ⟨⟨f, rest'⟩, -, h⟩ := bind_eq_ok.mp h
    obtain ⟨⟨fs, rest''⟩, hfs, h⟩ := bind_eq_ok.mp h
    cases h
    rw [List.length_cons, List.length_cons, Element.length_fields hfs]

theorem Table.length_record {t : Table} {values : List (Option StoredValue)} {record : Record}
    (h : t.record values = .ok record) : record.length = t.elements.length := by
  unfold Table.record Record.ofValues at h
  cases hf : Element.fields t.elements values with
  | error fault =>
    rw [hf] at h
    cases h
  | ok x =>
    rw [hf] at h
    cases h
    exact Element.length_fields hf

theorem Shard.inBounds_of_ofTable {t : Table} {shard : Shard} (h : Shard.ofTable t = .ok shard) : shard.InBounds := by
  obtain ⟨rfl, -, hp⟩ := Shard.ofTable_eq_ok.mp h
  obtain ⟨hlength, hlt⟩ := Schema.positions_inBounds hp
  exact ⟨hlength, hlt⟩

/-! ## Rows of a shard whose positions are in range -/

theorem indexedField_eq {record : Record} {positions : List Nat} {column : Nat} (hc : column < positions.length)
    (hr : ∀ i ∈ positions, i < record.length) :
    indexedField record positions column = Halt.liftTable (Schema.Row.fieldAt record positions column) := by
  have hposition : positions[column]? = some positions[column] := List.getElem?_eq_getElem hc
  have hlt : positions[column] < record.length := hr _ (List.getElem_mem hc)
  have hfield : record[positions[column]]? = some record[positions[column]] := List.getElem?_eq_getElem hlt
  unfold indexedField Schema.Row.fieldAt Record.at
  simp only [hposition, bounded, bind, Except.bind, hfield]
  rfl

namespace Schema.Row

variable {s : Schema} {record : Record} {positions : List Nat}

theorem indexedRecord_eq (hl : positions.length = s.columns.length) (hr : ∀ i ∈ positions, i < record.length) :
    indexedRecord s record positions = Halt.liftTable (ofRecord s record positions) := by
  have hvalue : ∀ {α : Type} (read : Field → Except TableFault α) (column : Nat), column < positions.length →
      (do let f ← indexedField record positions column; Halt.liftTable (read f)) =
        Halt.liftTable (fieldAt record positions column >>= read) := by
    intro α read column hc
    rw [indexedField_eq hc hr, Halt.liftTable_bind]
  have hpure : ∀ {α : Type} (a : α), Halt.liftTable (pure a) = pure a := fun _ => rfl
  cases s with
  | vertex =>
    have hlength : positions.length = 1 := hl
    simp only [indexedRecord, ofRecord, hvalue _ 0 (by omega), Halt.liftTable_bind, hpure]
  | edge =>
    have hlength : positions.length = 3 := hl
    simp only [indexedRecord, ofRecord, hvalue _ 0 (by omega), hvalue _ 1 (by omega), hvalue _ 2 (by omega),
      Halt.liftTable_bind, hpure]
  | stringAttribute =>
    have hlength : positions.length = 2 := hl
    simp only [indexedRecord, ofRecord, hvalue _ 0 (by omega), hvalue _ 1 (by omega), Halt.liftTable_bind, hpure]
  | doubleAttribute =>
    have hlength : positions.length = 2 := hl
    simp only [indexedRecord, ofRecord, hvalue _ 0 (by omega), hvalue _ 1 (by omega), Halt.liftTable_bind, hpure]
  | pairAttribute =>
    have hlength : positions.length = 3 := hl
    simp only [indexedRecord, ofRecord, hvalue _ 0 (by omega), hvalue _ 1 (by omega), hvalue _ 2 (by omega),
      Halt.liftTable_bind, hpure]

end Schema.Row

namespace Shard

variable {shard : Shard} {s : Schema} {values : List (Option StoredValue)} {render : Field → Option String}

section InBounds

variable (h : shard.InBounds)
include h

theorem indexedDecode_eq (hs : shard.schema = s) :
    shard.indexedDecode s values = Halt.lift (shard.decode s values) := by
  subst hs
  have hrecord : ∀ record, shard.table.record values = .ok record →
      Schema.Row.indexedRecord shard.schema record shard.positions =
        Halt.liftTable (Schema.Row.ofRecord shard.schema record shard.positions) := by
    intro record hr
    refine Schema.Row.indexedRecord_eq h.length fun i hi => ?_
    rw [Table.length_record hr]
    exact h.lt i hi
  unfold indexedDecode decode
  cases hr : shard.table.record values with
  | error fault => rfl
  | ok record =>
    simp only [bind, Except.bind]
    rw [show Halt.liftTable (Except.ok record) = Except.ok record from rfl]
    simp only [hrecord record hr]
    cases Schema.Row.ofRecord shard.schema record shard.positions <;> rfl

theorem indexedGroup_eq (hs : shard.schema = s) (number : Nat) (g : RowGroup) (room : Nat) :
    shard.indexedGroup s number g room = Halt.lift (shard.readGroup s number g room) := by
  unfold indexedGroup readGroup
  have hdecode : shard.indexedDecode s = fun values => Halt.lift (shard.decode s values) :=
    funext fun _ => indexedDecode_eq h hs
  rw [Halt.lift_bind, hdecode]
  refine congrArg _ (funext fun _ => ?_)
  rw [Halt.lift_bind, Halt.lift_mapM]
  refine congrArg _ (funext fun rows => ?_)
  by_cases hc : rows.length = g.stated
  · rw [if_pos hc, if_pos hc]
    rfl
  · rw [if_neg hc, if_neg hc]
    rfl

/-- **The rows of a file** are read by indexing. -/
theorem indexedRows_eq (codec : CodecConfig) (order : Schedule) (s : Schema) (noThreads : Option IoFault) (room : Nat) :
    shard.indexedRows codec order s noThreads room = Halt.lift (shard.readRowsBy codec order s noThreads room) := by
  unfold indexedRows readRowsBy
  by_cases hs : shard.schema = s
  · have htasks : (shard.table.groups.zipIdx.map fun x => shard.readGroup s x.2 x.1 room).map Halt.lift =
        shard.table.groups.zipIdx.map fun x => shard.indexedGroup s x.2 x.1 room := by
      rw [List.map_map]
      exact List.map_congr_left fun x _ => (indexedGroup_eq h hs x.2 x.1 room).symm
    rw [if_pos hs, if_pos hs, Halt.lift_bind]
    refine congrArg _ (funext fun _ => ?_)
    rw [Halt.lift_bind, Halt.lift_run, htasks]
    refine congrArg _ (funext fun groups => ?_)
    rw [Halt.lift_bind]
    rfl
  · rw [if_neg hs, if_neg hs]
    rfl

theorem indexedFormat_eq : shard.indexedFormat render values = Halt.lift (shard.formatRow render values) := by
  have hrow : Halt.lift (shard.formatRow render values) = Halt.liftTable (shard.table.record values >>= fun record =>
      shard.positions.mapM fun i => record.at i >>= written render) := by
    unfold formatRow
    cases (shard.table.record values >>= fun record =>
      shard.positions.mapM fun i => record.at i >>= written render) <;> rfl
  rw [hrow, Halt.liftTable_bind, indexedFormat]
  cases hr : shard.table.record values with
  | error fault => rfl
  | ok record =>
    have hfields : ∀ i ∈ shard.positions, (do let (_, f) ← bounded record[i]?; Halt.liftTable (written render f)) =
        Halt.liftTable (record.at i >>= written render) := by
      intro i hi
      have hlt : i < record.length := by
        rw [Table.length_record hr]
        exact h.lt i hi
      unfold Record.at
      rw [List.getElem?_eq_getElem hlt]
      rfl
    show shard.positions.mapM _ = _
    rw [mapM_congr_of_mem hfields]
    exact (Halt.liftTable_mapM _ _).symm

/-- **The texts of the first rows** are read by indexing. -/
theorem indexedFormatRows_eq (limit : Nat) (render : Field → Option String) :
    shard.indexedFormatRows limit render = Halt.lift (shard.formatRows limit render) := by
  have hformat : shard.indexedFormat render = fun values => Halt.lift (shard.formatRow render values) :=
    funext fun _ => indexedFormat_eq h
  unfold indexedFormatRows
  rw [formatRows_eq, Halt.lift_mapM, hformat]

end InBounds

end Shard

/-- A file that can be opened has its columns in range. -/
theorem FileSystem.inBounds_of_openShard {fs : FileSystem} {p : Path} {shard : Shard} (h : fs.openShard p = .ok shard) :
    shard.InBounds := by
  obtain ⟨t, -, ht⟩ := FileSystem.openShard_eq_ok.mp h
  exact Shard.inBounds_of_ofTable ht

end GraphDisk
