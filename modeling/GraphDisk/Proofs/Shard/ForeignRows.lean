import Mathlib.Algebra.GroupWithZero.Nat
import GraphDisk.Proofs.Shard.Detection
import GraphDisk.Proofs.Workers

/-!
# Rows of other writers

Another writer may leave out values, and may store text without saying so. A record is read iff it has all values and
its text is UTF-8 (`Shard.decode_ok_iff`); nothing stands in for a value that is missing. The rows that are read are the
records of all row groups, one row for each and in their order (`Shard.decoded_of_readRows`), with each field from the
column of its name (`Shard.isRecord_of_decode`). This is put together in `Shard.foreign_rows`.

How many rows there are is for the footer to say. A row group has as many as are stated, even if its columns hold more,
and if the number for the whole file asks for more room than there is, the program ends (`Shard.rows_of_wrong_counts`).
-/

namespace GraphDisk

/-! ## What other writers may write -/

namespace StoredValue

/-- **A value of a physical type.** Types that are not named here are those of no column of a shard. -/
inductive OfType : PhysicalType → StoredValue → Prop
  | integer (n : Int64) : OfType .int64 (.integer n)
  | double (x : Double) : OfType .double (.double x)
  | bytes (data : ByteArray) : OfType .byteArray (.bytes data)

/-- **Bytes that are text**: they are UTF-8. Every other value will do. -/
def Textual : StoredValue → Prop
  | .bytes data => ∃ s : String, data = s.toUTF8
  | _ => True

end StoredValue

namespace Element

/-- **A column without a tag**, or one of text that is tagged as such. -/
inductive Plain : Element → Prop
  | untagged {name : String} {r : Repetition} {physical : PhysicalType} : Plain (.leaf name r physical .plain)
  | text {name : String} {r : Repetition} : Plain (.leaf name r .byteArray .utf8)

/-- A value that a column can hold. -/
inductive Holds : Element → StoredValue → Prop
  | leaf {name : String} {r : Repetition} {physical : PhysicalType} {tag : Tag} {x : StoredValue} :
    x.OfType physical → Holds (.leaf name r physical tag) x

end Element

/-- **A row group is whole**: each column has a place for every stated row, with a value of the column or none. -/
def RowGroup.Whole (elements : List Element) (g : RowGroup) : Prop :=
  List.Forall₂ (fun e column => g.stated ≤ column.size ∧ ∀ x, some x ∈ column → e.Holds x) elements g.columns

/-- Every value is there, and is text if it has to be. -/
def Table.Filled (t : Table) : Prop :=
  ∀ values ∈ t.rows, ∀ v ∈ values, ∃ x : StoredValue, v = some x ∧ x.Textual

/-- **A row is a record**: each of its cells is stored in the column of its name. -/
def Schema.Row.IsRecord (s : Schema) (elements : List Element) (values : List (Option StoredValue)) (row : s.Row) :
    Prop :=
  ∀ c ∈ s.columns.zipIdx, ∃ (i : Nat) (e : Element), elements[i]? = some e ∧ e.name = c.1.name ∧
    values[i]? = some (some (cell s row c.2).stored)

variable {t : Table} {shard : Shard} {elements : List Element} {values : List (Option StoredValue)} {group : RowGroup}

theorem Element.flat_of_plain (hplain : ∀ e ∈ elements, e.Plain) : Element.Flat elements := by
  intro e he
  cases hplain e he <;> rfl

/-! ## Records of a group -/

/-- A whole row group has a record for every row that is stated. -/
theorem RowGroup.stated_le_of_whole (hne : elements ≠ []) (h : group.Whole elements) : group.stated ≤ group.held := by
  unfold RowGroup.Whole at h
  unfold RowGroup.held
  cases hcolumns : group.columns with
  | nil =>
    rw [hcolumns, List.forall₂_nil_right_iff] at h
    exact absurd h hne
  | cons column columns =>
    rw [hcolumns, List.forall₂_cons_right_iff] at h
    obtain ⟨e, es, ⟨hsize, -⟩, -, -⟩ := h
    exact hsize

/-- Each value of a record can be held by its column. -/
theorem RowGroup.holds_of_whole (h : group.Whole elements) (hv : values ∈ group.rows) :
    List.Forall₂ (fun e v => ∀ x, v = some x → Element.Holds e x) elements values := by
  unfold RowGroup.rows at hv
  obtain ⟨i, -, rfl⟩ := List.mem_map.mp hv
  unfold RowGroup.row
  rw [List.forall₂_map_right_iff]
  refine List.Forall₂.imp (fun e column hcolumn x hx => hcolumn.2 x ?_) h
  obtain ⟨o, ho, rfl⟩ : ∃ o, column[i]? = some o ∧ o = some x := by
    cases hi : column[i]? with
    | none => simp [hi] at hx
    | some o => exact ⟨o, rfl, by simpa [hi] using hx⟩
  exact Array.mem_of_getElem? ho

/-! ## Which records can be read -/

namespace Element

variable {e : Element} {v : Option StoredValue} {x : StoredValue} {f : Field}

/-- A value that is text if it has to be is that of a cell. -/
theorem takes_of_holds (hplain : e.Plain) (hx : e.Holds x) (ht : x.Textual) :
    ∃ cell : Cell, x = cell.stored ∧ e.Takes cell := by
  cases hplain with
  | untagged =>
    obtain ⟨hx⟩ := hx
    cases hx with
    | integer n => exact ⟨.int64 n, rfl, .leaf .int64 rfl .int64⟩
    | double y => exact ⟨.double y, rfl, .leaf .double rfl .double⟩
    | bytes data =>
      obtain ⟨s, rfl⟩ := ht
      exact ⟨.utf8 s, rfl, .leaf .utf8 rfl .bytes⟩
  | text =>
    obtain ⟨hx⟩ := hx
    cases hx with
    | bytes data =>
      obtain ⟨s, rfl⟩ := ht
      exact ⟨.utf8 s, rfl, .leaf .utf8 rfl .text⟩

/-- **Only a value that is there, and that is text if it has to be, can be read.** -/
theorem textual_of_readable (hplain : e.Plain) (hr : e.Reads v f) (hf : f.Readable) : ∃ x, v = some x ∧ x.Textual := by
  cases hr with
  | missing => exact absurd hf Field.not_readable_null
  | @stored name r physical tag x f h =>
    refine ⟨x, rfl, ?_⟩
    cases x with
    | integer n => trivial
    | double y => trivial
    | flag b => trivial
    | bytes data =>
      cases hplain with
      | untagged =>
        cases physical <;> cases h
        obtain ⟨n, h⟩ | ⟨y, h⟩ | ⟨s, h⟩ := hf
        · cases h
        · cases h
        · simp only [Field.toText] at h
          split at h
          · rename_i s' hs
            exact ⟨s', fromUTF8?_eq_some hs⟩
          · cases h
      | text =>
        simp only [Field.ofStored, Field.ofStored.asText] at h
        split at h
        · rename_i s hs
          exact ⟨s, fromUTF8?_eq_some hs⟩
        · cases h

/-- Values that are all there and text where they have to be are those of cells. -/
theorem exists_cells (hplain : ∀ e ∈ elements, e.Plain)
    (hholds : List.Forall₂ (fun e v => ∀ x, v = some x → Element.Holds e x) elements values)
    (hall : ∀ v ∈ values, ∃ x : StoredValue, v = some x ∧ x.Textual) :
    ∃ cells, List.Forall₂ Takes elements cells ∧ values = cells.map fun cell => some cell.stored := by
  induction hholds with
  | nil => exact ⟨[], .nil, rfl⟩
  | cons hx _ ih =>
    obtain ⟨hp, hplain⟩ := List.forall_mem_cons.mp hplain
    obtain ⟨⟨x, rfl, ht⟩, hrest⟩ := List.forall_mem_cons.mp hall
    obtain ⟨cells, htakes, rfl⟩ := ih hplain hrest
    obtain ⟨cell, rfl, htake⟩ := takes_of_holds hp (hx x rfl) ht
    exact ⟨cell :: cells, .cons htake htakes, rfl⟩

/-- There is a field for every value of a column without a tag, or the reason why there is none is returned. -/
theorem field_ne_halt (hplain : e.Plain) : ∀ values, field e values ≠ .error .halt := by
  cases hplain with
  | @untagged name r physical =>
    rintro (_ | ⟨_ | v, rest⟩) h
    · cases h
    · cases h
    · cases physical <;> cases v <;> cases h
  | text =>
    rintro (_ | ⟨_ | v, rest⟩)
    · exact fun h => by cases h
    · exact fun h => by cases h
    · rw [field]
      refine bind_ne_error ?_ fun f => ok_ne_error _
      intro h
      cases v with
      | bytes data =>
        simp only [Field.ofStored, Field.ofStored.asText] at h
        split at h <;> cases h
      | _ => cases h

theorem fields_ne_halt : ∀ {elements : List Element} {values : List (Option StoredValue)},
    (∀ e ∈ elements, e.Plain) → fields elements values ≠ .error .halt
  | [], values, _ => by
    rw [fields_nil]
    exact ok_ne_error _
  | e :: es, values, hplain => by
    obtain ⟨hp, hplain⟩ := List.forall_mem_cons.mp hplain
    rw [fields]
    exact bind_ne_error (field_ne_halt hp _) fun x => bind_ne_error (fields_ne_halt hplain) fun y => ok_ne_error _

end Element

/-- A row is not read off a record without a reason. -/
theorem Schema.Row.ofRecord_ne_halt {s : Schema} {record : Record} {positions : List Nat} :
    ofRecord s record positions ≠ .error .halt := by
  have hat : ∀ {column}, fieldAt record positions column ≠ .error .halt := by
    intro column h
    simp only [fieldAt, Record.at] at h
    split at h
    · split at h <;> cases h
    · cases h
  have hlong : ∀ {column}, fieldAt record positions column >>= Field.toInt64 ≠ .error .halt :=
    bind_ne_error hat fun f h => by cases f <;> cases h
  have hdouble : ∀ {column}, fieldAt record positions column >>= Field.toDouble ≠ .error .halt :=
    bind_ne_error hat fun f h => by cases f <;> cases h
  have htext : ∀ {column}, fieldAt record positions column >>= Field.toText ≠ .error .halt := by
    refine bind_ne_error hat fun f h => ?_
    cases f with
    | bytes data =>
      simp only [Field.toText] at h
      split at h <;> cases h
    | _ => cases h
  cases s with
  | vertex => exact bind_ne_error hlong fun _ => ok_ne_error _
  | edge =>
    exact bind_ne_error hlong fun _ => bind_ne_error hlong fun _ => bind_ne_error hlong fun _ => ok_ne_error _
  | stringAttribute => exact bind_ne_error hlong fun _ => bind_ne_error htext fun _ => ok_ne_error _
  | doubleAttribute => exact bind_ne_error hlong fun _ => bind_ne_error hdouble fun _ => ok_ne_error _
  | pairAttribute =>
    exact bind_ne_error hlong fun _ => bind_ne_error hdouble fun _ => bind_ne_error hdouble fun _ => ok_ne_error _

namespace Shard

/-- **A record is read iff it has all values and its text is UTF-8.** -/
theorem decode_ok_iff (h : ofTable t = .ok shard) (hplain : ∀ e ∈ t.elements, e.Plain)
    (hholds : List.Forall₂ (fun e v => ∀ x, v = some x → Element.Holds e x) t.elements values) :
    (∃ row, shard.decode shard.schema values = .ok row) ↔ ∀ v ∈ values, ∃ x : StoredValue, v = some x ∧ x.Textual := by
  constructor
  · rintro ⟨row, hrow⟩ v hv
    obtain ⟨rfl, -, hp⟩ := ofTable_eq_ok.mp h
    obtain ⟨record, rest, hfields, hread⟩ := decode_eq_ok.mp hrow
    -- every place is that of a column, and every column has been read
    obtain ⟨k, hk⟩ := List.mem_iff_getElem?.mp hv
    obtain ⟨hlt, -⟩ := List.getElem?_eq_some_iff.mp hk
    rw [← hholds.length_eq] at hlt
    obtain ⟨x, hx, hreadable⟩ := Schema.Row.readable_at hp hread hlt
    obtain ⟨f, hfound, hreads⟩ :=
      Element.reads_of_flat (Element.flat_of_plain hplain) hfields (List.getElem?_eq_getElem hlt) hk
    rw [hfound] at hx
    cases hx
    exact Element.textual_of_readable (hplain _ (List.getElem_mem hlt)) hreads hreadable
  · intro hall
    obtain ⟨cells, htakes, rfl⟩ := Element.exists_cells hplain hholds hall
    obtain ⟨row, hrow, -⟩ := decode_of_takes h htakes
    exact ⟨row, hrow⟩

/-- A row that is read is the record. -/
theorem isRecord_of_decode {row : shard.schema.Row} (h : ofTable t = .ok shard) (hplain : ∀ e ∈ t.elements, e.Plain)
    (hholds : List.Forall₂ (fun e v => ∀ x, v = some x → Element.Holds e x) t.elements values)
    (hrow : shard.decode shard.schema values = .ok row) : Schema.Row.IsRecord shard.schema t.elements values row := by
  obtain ⟨cells, htakes, rfl⟩ := Element.exists_cells hplain hholds ((decode_ok_iff h hplain hholds).mp ⟨row, hrow⟩)
  obtain ⟨row', hrow', hcells⟩ := decode_of_takes h htakes
  obtain rfl : row = row' := by
    rw [hrow] at hrow'
    cases hrow'
    rfl
  obtain ⟨-, -, hp⟩ := ofTable_eq_ok.mp h
  intro c hc
  obtain ⟨i, hi, hcell⟩ := hcells c hc
  obtain ⟨j, hj, hleaf⟩ := getElem?_of_forall₂ (Schema.leaves_of_positions hp) (List.mem_zipIdx_iff_getElem?.mp hc)
  obtain rfl : i = j := by
    rw [hi] at hj
    cases hj
    rfl
  obtain ⟨e, he, -, hname⟩ := Leaf.getElem?_of_flat (Element.flat_of_plain hplain) hleaf
  exact ⟨i, e, he, hname, by rw [List.getElem?_map, hcell, Option.map_some]⟩

/-- **The rows that are read are the records of all row groups**, one row for each and in their order. -/
theorem decoded_of_readRows {room : Nat} {rows : List shard.schema.Row}
    (h : shard.readRows shard.schema room = .ok rows) :
    List.Forall₂ (fun values row => shard.decode shard.schema values = .ok row) shard.table.rows rows := by
  obtain ⟨blocks, hblocks, -, rfl⟩ := (readRows_eq_ok rfl).mp h
  have hgroups : List.Forall₂ (fun (g : RowGroup) block =>
      List.Forall₂ (fun values row => shard.decode shard.schema values = .ok row) g.rows block)
      shard.table.groups blocks := by
    rw [← List.zipIdx_map_fst 0 shard.table.groups, List.forall₂_map_left_iff]
    exact (mapM_eq_ok.mp hblocks).imp fun x block hblock => mapM_eq_ok.mp (readGroup_eq_ok.mp hblock).1
  unfold Table.rows
  rw [List.flatMap_def]
  exact List.rel_flatten (List.forall₂_map_left_iff.mpr hgroups)

/-- A record that is not read is at fault in a way that is returned. -/
theorem fault_of_decode_error {s : Schema} {e : Error} (hplain : ∀ e ∈ shard.table.elements, e.Plain)
    (h : shard.decode s values = .error e) : ∃ fault, e = .table fault ∧ fault ≠ .halt := by
  unfold decode at h
  split at h
  · cases h
  · rename_i fault hfault
    cases h
    refine ⟨fault, rfl, ?_⟩
    rintro rfl
    rcases bind_eq_error.mp hfault with hfault | ⟨record, -, hfault⟩
    · exact Element.fields_ne_halt hplain (map_eq_error hfault)
    · exact Schema.Row.ofRecord_ne_halt hfault

/-! ## Files of other writers -/

section Files

variable (ht : ofTable shard.table = .ok shard) (hplain : ∀ e ∈ shard.table.elements, e.Plain)
  (hwhole : ∀ g ∈ shard.table.groups, g.Whole shard.table.elements)

include ht hwhole in
/-- A whole row group has as many records as it states. -/
theorem length_rows_of_whole (hg : group ∈ shard.table.groups) :
    group.stated ≤ group.held ∧ group.rows.length = group.stated := by
  have hne : shard.table.elements ≠ [] := by
    intro hnil
    have hlength := (Schema.positions_eq_ok (ofTable_eq_ok.mp ht).2.2).1
    rw [hnil] at hlength
    revert hlength
    cases shard.schema <;> simp [Schema.columns]
  have hheld := RowGroup.stated_le_of_whole hne (hwhole group hg)
  exact ⟨hheld, by rw [group.length_rows, Nat.min_eq_left hheld]⟩

include hwhole in
theorem holds_of_mem_rows (hv : values ∈ shard.table.rows) :
    List.Forall₂ (fun e v => ∀ x, v = some x → Element.Holds e x) shard.table.elements values := by
  obtain ⟨g, hg, hv⟩ := List.mem_flatMap.mp hv
  exact RowGroup.holds_of_whole (hwhole g hg) hv

include ht hplain hwhole

/-- **A row group cannot be read** iff the table is not filled, for all records that are stated are there. -/
theorem not_filled_iff : ¬ shard.table.Filled ↔ ∃ group ∈ shard.table.groups,
    (∃ values ∈ group.rows, ∃ e, shard.decode shard.schema values = .error e) ∨ group.rows.length ≠ group.stated := by
  have hdecodes : ∀ values ∈ shard.table.rows, ((∃ row, shard.decode shard.schema values = .ok row) ↔
      ∀ v ∈ values, ∃ x : StoredValue, v = some x ∧ x.Textual) :=
    fun values hv => decode_ok_iff ht hplain (holds_of_mem_rows hwhole hv)
  constructor
  · intro hno
    unfold Table.Filled at hno
    push Not at hno
    obtain ⟨values, hmem, v, hv, hbad⟩ := hno
    obtain ⟨g, hg, hin⟩ := List.mem_flatMap.mp hmem
    refine ⟨g, hg, Or.inl ⟨values, hin, exists_error_iff.mpr fun hok => ?_⟩⟩
    obtain ⟨x, hx, htext⟩ := (hdecodes values hmem).mp hok v hv
    exact hbad x hx htext
  · rintro ⟨g, hg, ⟨values, hv, hfail⟩ | hcount⟩ hall
    · have hmem : values ∈ shard.table.rows := List.mem_flatMap.mpr ⟨g, hg, hv⟩
      exact exists_error_iff.mp hfail ((hdecodes values hmem).mpr (hall values hmem))
    · exact hcount (length_rows_of_whole ht hwhole hg).2

/-- All that a row group can lack is a value. -/
theorem fault_of_readGroup_error {number room : Nat} {e : Error} (hg : group ∈ shard.table.groups)
    (h : shard.readGroup shard.schema number group room = .error e) :
    ∃ fault, e = .table fault ∧ fault ≠ .halt ∧ ¬ shard.table.Filled := by
  obtain ⟨hheld, hlength⟩ := length_rows_of_whole ht hwhole hg
  rcases bind_eq_error.mp h with h | ⟨-, -, h⟩
  · exact absurd (Or.inl hheld) (Schema.reserve_eq_error.mp h).1
  rcases bind_eq_error.mp h with h | ⟨rows, hrows, h⟩
  · obtain ⟨before, values, behind, hin, -, hv⟩ := mapM_eq_error.mp h
    obtain ⟨fault, rfl, hfault⟩ := fault_of_decode_error hplain hv
    refine ⟨fault, rfl, hfault, (not_filled_iff ht hplain hwhole).mpr ⟨group, hg, Or.inl ⟨values, ?_, _, hv⟩⟩⟩
    rw [hin]
    simp
  · rw [if_pos ((mapM_eq_ok.mp hrows).length_eq.symm.trans hlength)] at h
    cases h

/-- A table is filled if all its row groups have been read, whatever becomes of the rows then. -/
theorem filled_of_groups {room : Nat} {blocks : List (List shard.schema.Row)}
    (h : shard.table.groups.zipIdx.mapM (fun x => shard.readGroup shard.schema x.2 x.1 room) = .ok blocks) :
    shard.table.Filled := by
  by_contra hno
  obtain ⟨g, hg, hbad⟩ := (not_filled_iff ht hplain hwhole).mp hno
  obtain ⟨i, hi, rfl⟩ := List.getElem_of_mem hg
  obtain ⟨rows, -, hrows⟩ := mapM_ok_of_mem h
    (List.mk_mem_zipIdx_iff_getElem?.mpr (List.getElem?_eq_getElem hi))
  exact exists_error_iff.mp (readGroup_fails.mpr hbad) ⟨rows, hrows⟩

end Files

/-- **What is read from a file of another writer.** It is read, by any number of threads, iff every value is there and
every text is UTF-8, and there is room for as many rows as the footer states for the whole file. Then there is a row for
each record, all row groups in their order, and each field comes from the one column of its name. A missing value or
other text is returned as the fault, and the program ends iff there is only no room. A file of one schema is not read as
one of another. -/
theorem foreign_rows {fs : FileSystem} {p : Path} {order : Schedule} {noThreads : Option IoFault}
    (hopen : fs.openShard p = .ok shard) (hplain : ∀ e ∈ shard.table.elements, e.Plain)
    (hwhole : ∀ g ∈ shard.table.groups, g.Whole shard.table.elements) (hf : order.Fair)
    (codec : CodecConfig) (hstarted : shard.spreads codec = true → noThreads = none) (room : Nat) :
    (shard.table.elements.map Element.name).Nodup ∧
    ((∃ rows, shard.readRowsBy codec order shard.schema noThreads room = .ok rows) ↔
      shard.table.Filled ∧ shard.schema.Reservable room shard.table.rows.length shard.table.rowCount) ∧
    (∀ rows, shard.readRowsBy codec order shard.schema noThreads room = .ok rows →
      rows.length = (shard.table.groups.map RowGroup.stated).sum ∧
      List.Forall₂ (Schema.Row.IsRecord shard.schema shard.table.elements) shard.table.rows rows) ∧
    (∀ e, shard.readRowsBy codec order shard.schema noThreads room = .error e →
      ∃ fault, e = .table fault ∧ (fault = .halt ↔ shard.table.Filled)) ∧
    ∀ s, s ≠ shard.schema →
      shard.readRowsBy codec order s noThreads room = .error (.invalidFormat (.otherSchema s shard.schema)) := by
  obtain ⟨t, -, ht⟩ := FileSystem.openShard_eq_ok.mp hopen
  obtain ⟨rfl, -, hp⟩ := ofTable_eq_ok.mp ht
  refine ⟨?_, ?_, fun rows hrows => ?_, fun e he => ?_, fun s hs => if_neg hs.symm⟩
  · have hnames : (shard.schema.columns.map Column.name).Nodup := by cases shard.schema <;> decide
    exact (Schema.names_of_positions (Element.flat_of_plain hplain) hp).nodup_iff.mpr hnames
  · have hfails : (∃ e, shard.readRows shard.schema room = .error e) ↔ _ := readRows_fails rfl
    rw [← not_filled_iff ht hplain hwhole, exists_error_iff, ← not_and_or, not_iff_not] at hfails
    simp only [readRowsBy_eq_ok_of_started hf hstarted]
    exact hfails
  · rw [readRowsBy_eq_ok_of_started hf hstarted] at hrows
    have hdecoded := decoded_of_readRows hrows
    constructor
    · rw [← hdecoded.length_eq, Table.rows, List.length_flatMap]
      exact congrArg List.sum (List.map_congr_left fun g hg => (length_rows_of_whole ht hwhole hg).2)
    · have hholds : ∀ values ∈ shard.table.rows, _ := fun _ hv => holds_of_mem_rows hwhole hv
      refine ((List.forall₂_and_left _ _).mpr ⟨hholds, hdecoded⟩).imp fun values row h => ?_
      exact isRecord_of_decode ht hplain h.1 h.2
  · rcases readRowsBy_error rfl he with ⟨hspread, fault, hno, -⟩ | ⟨g, hg, number, hgroup⟩ | ⟨groups, hgroups, -, rfl⟩
    · rw [hstarted hspread] at hno
      cases hno
    · obtain ⟨fault, rfl, hfault, hno⟩ := fault_of_readGroup_error ht hplain hwhole hg hgroup
      exact ⟨fault, rfl, iff_of_false hfault hno⟩
    · rw [Schedule.run_eq_ok hf, List.mapM_map] at hgroups
      exact ⟨.halt, rfl, iff_of_true rfl (filled_of_groups ht hplain hwhole hgroups)⟩

/-- Three row groups of texts, the text before the id, and no row in the second group. -/
def foreignTexts : Table where
  elements := [.leaf "value" .required .byteArray .plain, .leaf "id" .optional .int64 .plain]
  groups := [⟨[#[some (.bytes "c".toUTF8), some (.bytes "a".toUTF8)], #[some (.integer 30), some (.integer 10)]], 2⟩,
    ⟨[#[], #[]], 0⟩, ⟨[#[some (.bytes "b".toUTF8)], #[some (.integer 20)]], 1⟩]
  stated := 3
  createdBy := none

/-- Three threads read the file, and the last group is done first. -/
theorem foreign_rows_of_texts : ∃ rows : List Schema.stringAttribute.Row,
    Shard.readRowsBy ⟨3, 1⟩ (fun n => (List.range n).reverse) ⟨foreignTexts, .stringAttribute, [1, 0]⟩
      .stringAttribute none = .ok rows ∧
    rows.length = 3 := by
  have hfile : FileSystem.find ⟨[("f", .file (.table foreignTexts))], []⟩ ⟨"f"⟩ =
      .ok (.file (.table foreignTexts)) := rfl
  have hopen : FileSystem.openShard ⟨[("f", .file (.table foreignTexts))], []⟩ ⟨"f"⟩ =
      .ok ⟨foreignTexts, .stringAttribute, [1, 0]⟩ := FileSystem.openShard_eq_ok.mpr ⟨_, hfile, rfl⟩
  have hplain : ∀ e ∈ foreignTexts.elements, e.Plain := by
    simp only [foreignTexts, List.forall_mem_cons, List.not_mem_nil, false_implies, implies_true, and_true]
    exact ⟨.untagged, .untagged⟩
  have hwhole : ∀ g ∈ foreignTexts.groups, g.Whole foreignTexts.elements := by
    have htext : ∀ texts : List String, ∀ x, some x ∈ (texts.map fun s => some (.bytes s.toUTF8)).toArray →
        Element.Holds (.leaf "value" .required .byteArray .plain) x := by
      intro texts x hx
      obtain ⟨s, -, hs⟩ := List.mem_map.mp (List.mem_toArray.mp hx)
      cases hs
      exact .leaf (.bytes _)
    have hlong : ∀ ids : List Int64, ∀ x, some x ∈ (ids.map fun n => some (.integer n)).toArray →
        Element.Holds (.leaf "id" .optional .int64 .plain) x := by
      intro ids x hx
      obtain ⟨n, -, hn⟩ := List.mem_map.mp (List.mem_toArray.mp hx)
      cases hn
      exact .leaf (.integer _)
    simp only [foreignTexts, List.forall_mem_cons, List.not_mem_nil, false_implies, implies_true, and_true]
    exact ⟨.cons ⟨by decide, htext ["c", "a"]⟩ (.cons ⟨by decide, hlong [30, 10]⟩ .nil),
      .cons ⟨by decide, htext []⟩ (.cons ⟨by decide, hlong []⟩ .nil),
      .cons ⟨by decide, htext ["b"]⟩ (.cons ⟨by decide, hlong [20]⟩ .nil)⟩
  obtain ⟨-, hread, hrows, -⟩ := foreign_rows hopen hplain hwhole (fun n => List.reverse_perm _) ⟨3, 1⟩
    (fun _ => rfl) maxAllocation
  have hvalues : foreignTexts.rows = [[some (.bytes "c".toUTF8), some (.integer 30)],
      [some (.bytes "a".toUTF8), some (.integer 10)], [some (.bytes "b".toUTF8), some (.integer 20)]] := rfl
  have hfilled : foreignTexts.Filled := by
    unfold Table.Filled
    rw [hvalues]
    simp only [List.forall_mem_cons, List.not_mem_nil, false_implies, implies_true, and_true]
    exact ⟨⟨⟨_, rfl, "c", rfl⟩, _, rfl, trivial⟩, ⟨⟨_, rfl, "a", rfl⟩, _, rfl, trivial⟩,
      ⟨_, rfl, "b", rfl⟩, _, rfl, trivial⟩
  obtain ⟨rows, hok⟩ := hread.mpr ⟨hfilled, Or.inl (by rw [hvalues]; decide)⟩
  exact ⟨rows, hok, (hrows rows hok).1⟩

/-- Vertices in one row group, of which the footer states some number, and another number for the whole file. -/
def miscounted (ids : List Int64) (inGroup : Nat) (inFile : Int) : Table where
  elements := [.leaf "id" .required .int64 .plain]
  groups := [⟨[(ids.map fun n => some (.integer n)).toArray], inGroup⟩]
  stated := inFile
  createdBy := none

/-- **What the footer says counts.** A vertex that is stored but not stated is not read, and the program ends on a
single vertex if the footer states more for the whole file than there can be. -/
theorem rows_of_wrong_counts :
    (FileSystem.openShard ⟨[("f", .file (.table (miscounted [7, 8] 1 2)))], []⟩ ⟨"f"⟩ =
        .ok ⟨miscounted [7, 8] 1 2, .vertex, [0]⟩ ∧
      Shard.readRows ⟨miscounted [7, 8] 1 2, .vertex, [0]⟩ .vertex = .ok [⟨7⟩]) ∧
    FileSystem.openShard ⟨[("f", .file (.table (miscounted [7] 1 maxAllocation)))], []⟩ ⟨"f"⟩ =
        .ok ⟨miscounted [7] 1 maxAllocation, .vertex, [0]⟩ ∧
      (miscounted [7] 1 maxAllocation).Filled ∧
      Shard.readRows ⟨miscounted [7] 1 maxAllocation, .vertex, [0]⟩ .vertex = .error (.table .halt) := by
  have hopen : ∀ t : Table, t.elements = [.leaf "id" .required .int64 .plain] →
      FileSystem.openShard ⟨[("f", .file (.table t))], []⟩ ⟨"f"⟩ = .ok ⟨t, .vertex, [0]⟩ := by
    intro t ht
    refine FileSystem.openShard_eq_ok.mpr ⟨t, rfl, ofTable_eq_ok.mpr ⟨rfl, ?_, ?_⟩⟩ <;> rw [ht] <;> rfl
  refine ⟨⟨hopen _ rfl, rfl⟩, hopen _ rfl, ?_, rfl⟩
  have hrows : (miscounted [7] 1 maxAllocation).rows = [[some (.integer 7)]] := rfl
  unfold Table.Filled
  rw [hrows]
  simp only [List.forall_mem_cons, List.not_mem_nil, false_implies, implies_true, and_true]
  exact ⟨_, rfl, trivial⟩

end Shard

end GraphDisk
