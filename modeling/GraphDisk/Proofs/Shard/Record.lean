import GraphDisk.Proofs.Shard.Positions
import GraphDisk.Proofs.UnorderedDisk.FailedRead

/-!
# Records of a shard

A record has a field of each element at the top of the layout. A row takes every column from the field at its position,
from which it must be possible to read the column (`Schema.Row.readable_of_ofRecord`). That is never so for the field of
a group (`Element.not_readable_of_group`). Where there are no groups, the field at a position is read off the value at
that position (`Element.reads_of_flat`), and cells that can stand in the leaves make a row (`Shard.decode_of_takes`).
-/

namespace GraphDisk

/-! ## Fields -/

namespace Element

/-- Whether an element is a group. -/
def isGroup : Element → Bool
  | leaf .. => false
  | group .. => true

/-- A layout has no groups. -/
def Flat (elements : List Element) : Prop := ∀ e ∈ elements, e.isGroup = false

end Element

/-- **A column can be read from a field.** -/
def Field.Readable (f : Field) : Prop := (∃ n, f.toInt64 = .ok n) ∨ (∃ x, f.toDouble = .ok x) ∨ ∃ s, f.toText = .ok s

namespace Field.Gives

variable {f : Field}

theorem of_toInt64 {n : Int64} (h : f.toInt64 = .ok n) : f.Gives (.int64 n) := by
  cases f <;> cases h
  exact .long _

theorem of_toDouble {x : Double} (h : f.toDouble = .ok x) : f.Gives (.double x) := by
  cases f <;> cases h
  exact .double _

theorem of_toText {s : String} (h : f.toText = .ok s) : f.Gives (.utf8 s) := by
  cases f with
  | string s' =>
    cases h
    exact .string _
  | bytes data =>
    rw [Field.toText] at h
    split at h
    · rename_i s' hs
      cases h
      rw [fromUTF8?_eq_some hs]
      exact .bytes _
    · cases h
  | _ => cases h

theorem readable {c : Cell} (h : f.Gives c) : f.Readable := by
  cases c with
  | int64 n => exact .inl ⟨_, h.toInt64⟩
  | double x => exact .inr (.inl ⟨_, h.toDouble⟩)
  | utf8 s => exact .inr (.inr ⟨_, h.toText⟩)

end Field.Gives

theorem Field.not_readable_null : ¬ Field.null.Readable := by
  rintro (⟨n, h⟩ | ⟨x, h⟩ | ⟨s, h⟩) <;> cases h

theorem Field.not_readable_group (fields : List (String × Field)) : ¬ (Field.group fields).Readable := by
  rintro (⟨n, h⟩ | ⟨x, h⟩ | ⟨s, h⟩) <;> cases h

namespace Element

variable {e : Element} {f : Field} {values rest : List (Option StoredValue)} {record : Record}

/-- A record has a field of each element at the top, in order. -/
theorem getElem?_fields :
    ∀ {elements : List Element} {values rest : List (Option StoredValue)} {record : Record} {k : Nat},
    fields elements values = .ok (record, rest) → elements[k]? = some e →
    ∃ f before behind, record[k]? = some (e.name, f) ∧ field e before = .ok (f, behind)
  | [], _, _, _, _, _, hk => by cases hk
  | e' :: es, values, rest, record, k, h, hk => by
    rw [fields] at h
    obtain ⟨⟨f, middle⟩, hf, h⟩ := bind_eq_ok.mp h
    obtain ⟨⟨fs, rest'⟩, hfs, h⟩ := bind_eq_ok.mp h
    cases h
    cases k with
    | zero =>
      cases hk
      exact ⟨f, values, middle, rfl, hf⟩
    | succ k =>
      have hk : es[k]? = some e := hk
      obtain ⟨f', before, behind, hfound, hfield⟩ := getElem?_fields hfs hk
      exact ⟨f', before, behind, hfound, hfield⟩

/-- No column can be read from the field of a group. -/
theorem not_readable_of_group (he : e.isGroup = true) (h : field e values = .ok (f, rest)) : ¬ f.Readable := by
  cases e with
  | leaf name r physical tag => cases he
  | group name r inner =>
    rw [field] at h
    split at h
    · cases h
      exact Field.not_readable_null
    · obtain ⟨⟨fs, behind⟩, -, h⟩ := bind_eq_ok.mp h
      cases h
      exact Field.not_readable_group fs

end Element

namespace Schema.Row

variable {s : Schema} {record : Record} {positions : List Nat} {row : s.Row}

/-- **A row that is read takes every cell** from a field that gives it. -/
theorem gives_of_ofRecord (h : ofRecord s record positions = .ok row) :
    ∀ c ∈ s.columns.zipIdx, ∃ f, fieldAt record positions c.2 = .ok f ∧ f.Gives (cell s row c.2) := by
  have hlong : ∀ {c n}, fieldAt record positions c >>= Field.toInt64 = .ok n →
      ∃ f, fieldAt record positions c = .ok f ∧ f.Gives (.int64 n) := fun hn =>
    (bind_eq_ok.mp hn).imp fun f hf => ⟨hf.1, .of_toInt64 hf.2⟩
  have hdouble : ∀ {c x}, fieldAt record positions c >>= Field.toDouble = .ok x →
      ∃ f, fieldAt record positions c = .ok f ∧ f.Gives (.double x) := fun hx =>
    (bind_eq_ok.mp hx).imp fun f hf => ⟨hf.1, .of_toDouble hf.2⟩
  have htext : ∀ {c t}, fieldAt record positions c >>= Field.toText = .ok t →
      ∃ f, fieldAt record positions c = .ok f ∧ f.Gives (.utf8 t) := fun ht =>
    (bind_eq_ok.mp ht).imp fun f hf => ⟨hf.1, .of_toText hf.2⟩
  cases s with
  | vertex =>
    obtain ⟨id, hid, h⟩ := bind_eq_ok.mp h
    cases h
    exact List.forall_mem_singleton.mpr (hlong hid)
  | edge =>
    obtain ⟨id, hid, h⟩ := bind_eq_ok.mp h
    obtain ⟨src, hsrc, h⟩ := bind_eq_ok.mp h
    obtain ⟨dst, hdst, h⟩ := bind_eq_ok.mp h
    cases h
    refine List.forall_mem_cons.mpr ⟨hlong hid, List.forall_mem_cons.mpr ⟨hlong hsrc, ?_⟩⟩
    exact List.forall_mem_singleton.mpr (hlong hdst)
  | stringAttribute =>
    obtain ⟨id, hid, h⟩ := bind_eq_ok.mp h
    obtain ⟨value, hvalue, h⟩ := bind_eq_ok.mp h
    cases h
    exact List.forall_mem_cons.mpr ⟨hlong hid, List.forall_mem_singleton.mpr (htext hvalue)⟩
  | doubleAttribute =>
    obtain ⟨id, hid, h⟩ := bind_eq_ok.mp h
    obtain ⟨value, hvalue, h⟩ := bind_eq_ok.mp h
    cases h
    exact List.forall_mem_cons.mpr ⟨hlong hid, List.forall_mem_singleton.mpr (hdouble hvalue)⟩
  | pairAttribute =>
    obtain ⟨id, hid, h⟩ := bind_eq_ok.mp h
    obtain ⟨first, hfirst, h⟩ := bind_eq_ok.mp h
    obtain ⟨second, hsecond, h⟩ := bind_eq_ok.mp h
    cases h
    refine List.forall_mem_cons.mpr ⟨hlong hid, List.forall_mem_cons.mpr ⟨hdouble hfirst, ?_⟩⟩
    exact List.forall_mem_singleton.mpr (hdouble hsecond)

/-- **A row that is read takes every column** from a field from which it can be read. -/
theorem readable_of_ofRecord (h : ofRecord s record positions = .ok row) :
    ∀ c ∈ s.columns.zipIdx, ∃ f, fieldAt record positions c.2 = .ok f ∧ f.Readable := fun c hc =>
  (gives_of_ofRecord h c hc).imp fun _ hf => ⟨hf.1, hf.2.readable⟩

/-- **A row that is read leaves no field out**, since every place is that of a column. -/
theorem readable_at {elements : List Element} {k : Nat} (hp : s.positions elements = .ok positions)
    (h : ofRecord s record positions = .ok row) (hk : k < elements.length) :
    ∃ x, record[k]? = some x ∧ x.2.Readable := by
  have hmem : k ∈ positions := (positions_perm hp).mem_iff.mpr (List.mem_range.mpr hk)
  obtain ⟨column, hcolumn⟩ := List.mem_iff_getElem?.mp hmem
  have hlt : column < s.columns.length := by
    rw [← (positions_inBounds hp).1]
    exact (List.getElem?_eq_some_iff.mp hcolumn).1
  obtain ⟨f, hf, hreadable⟩ := readable_of_ofRecord h (s.columns[column], column)
    (List.mem_zipIdx_iff_getElem?.mpr (List.getElem?_eq_getElem hlt))
  simp only [fieldAt, hcolumn, Record.at] at hf
  split at hf
  · rename_i x hx
    cases hf
    exact ⟨_, hx, hreadable⟩
  · cases hf

end Schema.Row

theorem Shard.decode_eq_ok {shard : Shard} {s : Schema} {values : List (Option StoredValue)} {row : s.Row} :
    shard.decode s values = .ok row ↔ ∃ record rest, Element.fields shard.table.elements values = .ok (record, rest) ∧
      Schema.Row.ofRecord s record shard.positions = .ok row := by
  unfold decode Table.record Record.ofValues
  cases Element.fields shard.table.elements values with
  | error fault => simp [Except.map, bind, Except.bind]
  | ok x =>
    obtain ⟨record, rest⟩ := x
    cases hread : Schema.Row.ofRecord s record shard.positions <;> simp [Except.map, bind, Except.bind, hread]

/-! ## Counts -/

/-- **The footer counts no more rows than its row groups do.** -/
def Table.Counted (t : Table) : Prop := t.rowCount ≤ (t.groups.map RowGroup.stated).sum

instance (t : Table) : Decidable t.Counted := inferInstanceAs (Decidable (_ ≤ _))

/-- If the row groups have the rows that they state, the table has the rows that it states. -/
theorem Table.Counted.le_length {t : Table} (h : t.Counted) (hg : ∀ g ∈ t.groups, g.rows.length = g.stated) :
    t.rowCount ≤ t.rows.length := by
  rw [Table.rows, List.length_flatMap, List.map_congr_left hg]
  exact h

/-! ## Records without groups -/

namespace Element

variable {e : Element} {f : Field} {elements : List Element} {values rest : List (Option StoredValue)}
  {v : Option StoredValue} {cells : List Cell}

/-- **A value is read off a leaf** as a field. -/
inductive Reads : Element → Option StoredValue → Field → Prop
  | missing {name : String} {r : Repetition} {physical : PhysicalType} {tag : Tag} :
    Reads (.leaf name r physical tag) none .null
  | stored {name : String} {r : Repetition} {physical : PhysicalType} {tag : Tag} {v : StoredValue} {f : Field} :
    Field.ofStored physical tag v = .ok f → Reads (.leaf name r physical tag) (some v) f

theorem reads_of_field (he : e.isGroup = false) (h : field e values = .ok (f, rest)) :
    ∃ v, values = v :: rest ∧ e.Reads v f := by
  cases e with
  | group name r inner => cases he
  | leaf name r physical tag =>
    cases values with
    | nil =>
      rw [field] at h
      cases h
    | cons v behind =>
      cases v with
      | none =>
        rw [field] at h
        cases h
        exact ⟨none, rfl, .missing⟩
      | some v =>
        rw [field] at h
        obtain ⟨f', hf, h⟩ := bind_eq_ok.mp h
        cases h
        exact ⟨some v, rfl, .stored hf⟩

/-- Without groups, the field at a position is read off the value at that position. -/
theorem reads_of_flat :
    ∀ {elements : List Element} {values rest : List (Option StoredValue)} {record : Record} {i : Nat},
    Flat elements → fields elements values = .ok (record, rest) → elements[i]? = some e → values[i]? = some v →
    ∃ f, record[i]? = some (e.name, f) ∧ e.Reads v f
  | [], _, _, _, _, _, _, hi, _ => by cases hi
  | e' :: es, values, rest, record, i, hflat, h, hi, hv => by
    rw [fields] at h
    obtain ⟨⟨f, middle⟩, hf, h⟩ := bind_eq_ok.mp h
    obtain ⟨⟨fs, rest'⟩, hfs, h⟩ := bind_eq_ok.mp h
    cases h
    obtain ⟨v', rfl, hreads⟩ := reads_of_field (hflat e' List.mem_cons_self) hf
    cases i with
    | zero =>
      cases hi
      cases hv
      exact ⟨f, rfl, hreads⟩
    | succ i =>
      have hi : es[i]? = some e := hi
      have hv : middle[i]? = some v := hv
      obtain ⟨f', hfound, hreads'⟩ := reads_of_flat (fun e he => hflat e (List.mem_cons_of_mem _ he)) hfs hi hv
      exact ⟨f', hfound, hreads'⟩

/-- The leaves store the types of the cells that stand in them. -/
theorem physical_of_takes (h : List.Forall₂ Takes elements cells) :
    List.Forall₂ (fun (leaf : Leaf) (cell : Cell) => leaf.physical = cell.type.physical)
      (Leaf.ofElements elements) cells := by
  unfold Leaf.ofElements
  induction h with
  | nil => exact .nil
  | cons htakes _ ih =>
    obtain ⟨type, htype, -⟩ := htakes
    rw [Leaf.ofAll, Leaf.ofElement, htype.symm]
    exact .cons rfl ih

end Element

/-- Without groups, every element at the top is a leaf. -/
theorem Leaf.getElem?_of_flat {elements : List Element} {i : Nat} {leaf : Leaf} (hflat : Element.Flat elements)
    (h : (ofElements elements)[i]? = some leaf) :
    ∃ e, elements[i]? = some e ∧ ofElement false e = [leaf] ∧ e.name = leaf.name := by
  unfold ofElements at h
  induction elements generalizing i with
  | nil => cases h
  | cons e es ih =>
    cases e with
    | group name r inner => cases hflat _ List.mem_cons_self
    | leaf name r physical tag =>
      rw [ofAll, ofElement] at h
      cases i with
      | zero =>
        cases h
        exact ⟨_, rfl, by rw [ofElement], rfl⟩
      | succ i => exact ih (fun e he => hflat e (List.mem_cons_of_mem _ he)) h

theorem ColumnType.physical_injective {a b : ColumnType} (h : a.physical = b.physical) : a = b := by
  cases a <;> cases b <;> first | rfl | cases h

/-- Cells of the right types make a row. -/
theorem Schema.Row.exists_of_cells (s : Schema) (cells : Nat → Cell)
    (h : ∀ c ∈ s.columns.zipIdx, (cells c.2).type = c.1.type) :
    ∃ r : s.Row, ∀ c ∈ s.columns.zipIdx, cell s r c.2 = cells c.2 := by
  have hlong : ∀ {c : Cell}, c.type = .int64 → ∃ n, c = .int64 n := fun {c} hc => by
    cases c <;> first | exact ⟨_, rfl⟩ | cases hc
  have hdouble : ∀ {c : Cell}, c.type = .double → ∃ x, c = .double x := fun {c} hc => by
    cases c <;> first | exact ⟨_, rfl⟩ | cases hc
  have htext : ∀ {c : Cell}, c.type = .utf8 → ∃ t, c = .utf8 t := fun {c} hc => by
    cases c <;> first | exact ⟨_, rfl⟩ | cases hc
  cases s with
  | vertex =>
    obtain ⟨n, hn⟩ := hlong (h (⟨"id", .int64⟩, 0) (by decide))
    refine ⟨⟨n⟩, ?_⟩
    simp [columns, cell, hn]
  | edge =>
    obtain ⟨n, hn⟩ := hlong (h (⟨"id", .int64⟩, 0) (by decide))
    obtain ⟨src, hsrc⟩ := hlong (h (⟨"src", .int64⟩, 1) (by decide))
    obtain ⟨dst, hdst⟩ := hlong (h (⟨"dst", .int64⟩, 2) (by decide))
    refine ⟨⟨n, src, dst⟩, ?_⟩
    simp [columns, cell, hn, hsrc, hdst]
  | stringAttribute =>
    obtain ⟨n, hn⟩ := hlong (h (⟨"id", .int64⟩, 0) (by decide))
    obtain ⟨t, ht⟩ := htext (h (⟨"value", .utf8⟩, 1) (by decide))
    refine ⟨⟨n, t⟩, ?_⟩
    simp [columns, cell, hn, ht]
  | doubleAttribute =>
    obtain ⟨n, hn⟩ := hlong (h (⟨"id", .int64⟩, 0) (by decide))
    obtain ⟨x, hx⟩ := hdouble (h (⟨"value", .double⟩, 1) (by decide))
    refine ⟨⟨n, x⟩, ?_⟩
    simp [columns, cell, hn, hx]
  | pairAttribute =>
    obtain ⟨n, hn⟩ := hlong (h (⟨"id", .int64⟩, 0) (by decide))
    obtain ⟨x, hx⟩ := hdouble (h (⟨"value1", .double⟩, 1) (by decide))
    obtain ⟨y, hy⟩ := hdouble (h (⟨"value2", .double⟩, 2) (by decide))
    refine ⟨⟨n, (x, y)⟩, ?_⟩
    simp [columns, cell, hn, hx, hy]

namespace Shard

variable {t : Table} {shard : Shard} {cells : List Cell}

/-- **Cells that stand in the leaves of a shard make a row**, which has each of them in the column at whose position it
is. -/
theorem decode_of_takes (h : ofTable t = .ok shard) (hcells : List.Forall₂ Element.Takes t.elements cells) :
    ∃ row, shard.decode shard.schema (cells.map fun cell => some cell.stored) = .ok row ∧
      ∀ c ∈ shard.schema.columns.zipIdx, ∃ i, shard.positions[c.2]? = some i ∧
        cells[i]? = some (Schema.Row.cell shard.schema row c.2) := by
  obtain ⟨rfl, -, hp⟩ := ofTable_eq_ok.mp h
  have hcolumn : ∀ c ∈ shard.schema.columns.zipIdx, ∃ i cell, shard.positions[c.2]? = some i ∧ cells[i]? = some cell ∧
      cell.type = c.1.type := by
    intro c hc
    obtain ⟨i, hi, hposition⟩ :=
      getElem?_of_forall₂ (Schema.positions_eq_ok hp).2 (List.mem_zipIdx_iff_getElem?.mp hc)
    obtain ⟨leaf, hleaf, haccepts⟩ := Schema.getElem?_position hposition
    obtain ⟨cell, hcell, hphysical⟩ := getElem?_of_forall₂ (Element.physical_of_takes hcells) hleaf
    simp only [Schema.accepts, Bool.and_eq_true, beq_iff_eq] at haccepts
    exact ⟨i, cell, hi, hcell, ColumnType.physical_injective (hphysical.symm.trans haccepts.1.2)⟩
  obtain ⟨row, hrow⟩ := Schema.Row.exists_of_cells shard.schema
    (fun column => ((shard.positions[column]?).bind fun i => cells[i]?).getD (.int64 0)) fun c hc => by
      obtain ⟨i, cell, hi, hcell, htype⟩ := hcolumn c hc
      rw [hi, Option.bind_some, hcell]
      exact htype
  have hplaced : ∀ c ∈ shard.schema.columns.zipIdx, ∃ i, shard.positions[c.2]? = some i ∧
      cells[i]? = some (Schema.Row.cell shard.schema row c.2) := by
    intro c hc
    obtain ⟨i, cell, hi, hcell, -⟩ := hcolumn c hc
    refine ⟨i, hi, ?_⟩
    rw [hrow c hc, hi, Option.bind_some, hcell]
    rfl
  obtain ⟨fs, hfs, hgives⟩ := Element.fields_of_takes hcells
  refine ⟨row, decode_of_gives shard row hfs fun c hc => ?_, hplaced⟩
  obtain ⟨i, hi, hcell⟩ := hplaced c hc
  obtain ⟨x, hx, hgive⟩ := getElem?_of_forall₂ hgives hcell
  exact ⟨i, x, hi, hx, hgive⟩

/-- **Cells that stand in the leaves of a shard are read**, whatever memory there is. -/
theorem readRows_of_takes (h : ofTable t = .ok shard) (hcounted : t.Counted)
    (hgroups : ∀ group ∈ t.groups, group.rows.length = group.stated ∧ ∀ values ∈ group.rows, ∃ cells,
      List.Forall₂ Element.Takes t.elements cells ∧ values = cells.map fun cell => some cell.stored) (room : Nat) :
    ∃ rows, shard.readRows shard.schema room = .ok rows := by
  have htable := (ofTable_eq_ok.mp h).1
  rcases ok_or_error (shard.readRows shard.schema room) with hok | hfail
  · exact hok
  · rcases (readRows_fails rfl).mp hfail with ⟨group, hmem, hbad⟩ | hroom
    · rw [htable] at hmem
      obtain ⟨hcount, hrecords⟩ := hgroups group hmem
      rcases hbad with ⟨values, hvalues, e, he⟩ | hbad
      · obtain ⟨cells, hcells, rfl⟩ := hrecords values hvalues
        obtain ⟨row, hrow, -⟩ := decode_of_takes h hcells
        rw [he] at hrow
        cases hrow
      · exact absurd hcount hbad
    · rw [htable] at hroom
      exact absurd (Or.inl (hcounted.le_length fun group hg => (hgroups group hg).1)) hroom

end Shard

end GraphDisk
