import GraphDisk.Proofs.Shard.RoundTrip

/-!
# Shards in other layouts

Another writer may put the columns of a schema in another order, make them optional, tag them otherwise, and spread the
rows over several row groups (`Table.LaysOut`). The schema is recognised all the same (`Schema.detect_of_stores`), and
what is read are the rows of all groups, one group after the other (`Table.LaysOut.read`).
-/

namespace GraphDisk

/-! ## Layouts -/

/-- A tag under which the values of a column can be read. Text need not be tagged as text. -/
inductive ColumnType.Tagged : ColumnType → Tag → Prop
  | int64 : Tagged .int64 .plain
  | signed : Tagged .int64 .signed64
  | double : Tagged .double .plain
  | text : Tagged .utf8 .utf8
  | json : Tagged .utf8 .json
  | enumeration : Tagged .utf8 .enumeration
  | bytes : Tagged .utf8 .plain
  | bson : Tagged .utf8 .bson

/-- **An element that stores a column**: required or optional, with a tag under which the column can be read. -/
inductive Element.Stores (c : Column) : Element → Prop
  | leaf {r : Repetition} {tag : Tag} :
    r ≠ .repeated → c.type.Tagged tag → Stores c (.leaf c.name r c.type.physical tag)

/-- A row group of some rows, with the given columns of their schema in the given order. -/
def RowGroup.holding (s : Schema) (order : List (Column × Nat)) (rows : List s.Row) : RowGroup :=
  ⟨order.map fun c => (rows.map fun r => some (Schema.Row.cell s r c.2).stored).toArray, rows.length⟩

/-- **A table that lays rows of a schema out**, group by group: the columns in some order, without missing values. The
footer does not state more rows than there are. -/
def Table.LaysOut (t : Table) (s : Schema) (groups : List (List s.Row)) : Prop :=
  ∃ order : List (Column × Nat), order.Perm s.columns.zipIdx ∧
    List.Forall₂ (fun c e => Element.Stores c.1 e) order t.elements ∧ t.groups = groups.map (RowGroup.holding s order) ∧
    t.rowCount ≤ groups.flatten.length

/-- What this library writes is laid out so. -/
theorem Table.laysOut_holding (s : Schema) (rows : List s.Row) : (Table.holding s rows).LaysOut s [rows] := by
  refine ⟨s.columns.zipIdx, List.Perm.refl _, ?_, rfl, by simp [holding, rowCount]⟩
  have hstores : ∀ c : Column, Element.Stores c c.element := by
    rintro ⟨name, type⟩
    refine .leaf (by simp) ?_
    cases type <;> constructor
  have helements : s.columns.zipIdx.map (Column.element ∘ Prod.fst) = s.elements := by
    rw [Schema.elements, ← List.map_map, List.zipIdx_map_fst]
  show List.Forall₂ _ _ s.elements
  rw [← helements]
  rw [List.forall₂_map_right_iff, List.forall₂_same]
  exact fun c _ => hstores c.1

theorem getElem?_of_forall₂ {α β : Type} {R : α → β → Prop} {as : List α} {bs : List β} {i : Nat} {a : α}
    (h : List.Forall₂ R as bs) (ha : as[i]? = some a) : ∃ b, bs[i]? = some b ∧ R a b := by
  induction h generalizing i with
  | nil => cases ha
  | @cons a' b' as bs hab _ ih =>
    cases i with
    | zero =>
      obtain rfl : a' = a := by simpa using ha
      exact ⟨b', rfl, hab⟩
    | succ i => exact ih (by simpa using ha)

/-! ## Recognising the schema -/

namespace Schema

variable {s s' : Schema} {order : List (Column × Nat)} {elements : List Element} {c : Column × Nat}

/-- The columns of a schema have different names. -/
theorem column_ext (s : Schema) : ∀ a ∈ s.columns.zipIdx, ∀ b ∈ s.columns.zipIdx, a.1.name = b.1.name → a = b := by
  cases s <;> decide

/-- A schema is known by its columns. -/
theorem eq_of_columns (hlength : s'.columns.length = s.columns.length) (hcolumns : ∀ c' ∈ s'.columns, ∃ c ∈ s.columns,
    c.name = c'.name ∧ c.type.physical = c'.type.physical) : s' = s := by
  revert hlength hcolumns
  cases s <;> cases s' <;> decide

/-- The leaf of a column. -/
def leafOf (c : Column × Nat) : Leaf := ⟨c.1.name, c.1.type.physical, false⟩

theorem accepts_leafOf {column : Column} : accepts column (leafOf c) = true ↔
    c.1.name = column.name ∧ c.1.type.physical = column.type.physical := by
  simp [accepts, leafOf]

/-- The leaf at the position of a column has the name and the type of the column. -/
theorem getElem?_position {leaves : List Leaf} {column : Column} {i : Nat} (h : s.position leaves column = .ok i) :
    ∃ leaf, leaves[i]? = some leaf ∧ accepts column leaf = true := by
  unfold position at h
  cases hfind : leaves.findIdx? (accepts column) with
  | none =>
    rw [hfind] at h
    cases h
  | some j =>
    rw [hfind] at h
    cases h
    obtain ⟨hi, haccepts, -⟩ := List.findIdx?_eq_some_iff_getElem.mp hfind
    exact ⟨leaves[i], List.getElem?_eq_getElem hi, haccepts⟩

theorem ofElements_of_stores (he : List.Forall₂ (fun c e => Element.Stores c.1 e) order elements) :
    Leaf.ofElements elements = order.map leafOf := by
  unfold Leaf.ofElements
  induction he with
  | nil => rfl
  | @cons c e order elements hstores _ ih =>
    obtain ⟨hr, -⟩ := hstores
    rw [Leaf.ofAll, ih, Leaf.ofElement]
    simp [leafOf, hr]

section Recognised

variable (hp : order.Perm s.columns.zipIdx) (he : List.Forall₂ (fun c e => Element.Stores c.1 e) order elements)
include hp he

theorem length_of_stores : elements.length = (Leaf.ofElements elements).length ∧
    (Leaf.ofElements elements).length = s.columns.length := by
  rw [ofElements_of_stores he, List.length_map, ← he.length_eq, hp.length_eq, List.length_zipIdx]
  exact ⟨rfl, rfl⟩

/-- The position of a column is its place in the order. -/
theorem position_of_stores (hc : c ∈ s.columns.zipIdx) :
    ∃ i, s.position (Leaf.ofElements elements) c.1 = .ok i ∧ order[i]? = some c := by
  unfold position
  rw [ofElements_of_stores he, List.findIdx?_map]
  cases hfind : order.findIdx? (accepts c.1 ∘ leafOf) with
  | none =>
    have hnot := List.findIdx?_eq_none_iff.mp hfind c (hp.mem_iff.mpr hc)
    simp [accepts, leafOf] at hnot
  | some i =>
    obtain ⟨hi, haccepts, -⟩ := List.findIdx?_eq_some_iff_getElem.mp hfind
    have hmem : order[i] ∈ s.columns.zipIdx := hp.mem_iff.mp (List.getElem_mem hi)
    have hsame := s.column_ext _ hmem c hc (accepts_leafOf.mp haccepts).1
    exact ⟨i, rfl, by rw [List.getElem?_eq_getElem hi, hsame]⟩

/-- The positions of the columns of a schema. -/
theorem positions_of_stores : ∃ positions, s.positions elements = .ok positions ∧
    ∀ c ∈ s.columns.zipIdx, ∃ i, positions[c.2]? = some i ∧ order[i]? = some c := by
  have hlength := length_of_stores hp he
  have hposition : ∀ column ∈ s.columns, ∃ i, s.position (Leaf.ofElements elements) column = .ok i := by
    intro column hcolumn
    rw [← List.zipIdx_map_fst 0 s.columns] at hcolumn
    obtain ⟨c, hc, rfl⟩ := List.mem_map.mp hcolumn
    obtain ⟨i, hi, -⟩ := position_of_stores hp he hc
    exact ⟨i, hi⟩
  cases hmap : s.columns.mapM (s.position (Leaf.ofElements elements)) with
  | error fault =>
    obtain ⟨before, column, behind, hsplit, -, hcolumn⟩ := mapM_eq_error.mp hmap
    obtain ⟨i, hi⟩ := hposition column (by rw [hsplit]; simp)
    rw [hi] at hcolumn
    cases hcolumn
  | ok positions =>
    refine ⟨positions, by rw [Schema.positions]; simp only [if_pos hlength, hmap], fun c hc => ?_⟩
    obtain ⟨i, hi, horder⟩ := position_of_stores hp he hc
    obtain ⟨j, hj, hjc⟩ := getElem?_of_forall₂ (mapM_eq_ok.mp hmap) (List.mem_zipIdx_iff_getElem?.mp hc)
    rw [hi] at hjc
    cases hjc
    exact ⟨i, hj, horder⟩

/-- **A table with the columns of a schema is recognised**, whatever their order. -/
theorem detect_of_stores : detect elements = .ok s := by
  obtain ⟨hcount, hlength⟩ := length_of_stores hp he
  have honly : ∀ s' : Schema, (s'.positions elements).isOk = true → s' = s := by
    intro s' hok
    cases hpositions : s'.positions elements with
    | error fault =>
      rw [hpositions] at hok
      cases hok
    | ok positions =>
      simp only [Schema.positions] at hpositions
      split at hpositions
      · rename_i hsame
        refine eq_of_columns (hsame.2.symm.trans hlength) fun c' hc' => ?_
        obtain ⟨k, hk⟩ := List.mem_iff_getElem?.mp hc'
        obtain ⟨i, -, hi⟩ := getElem?_of_forall₂ (mapM_eq_ok.mp hpositions) hk
        obtain ⟨leaf, hleaf, haccepts⟩ := getElem?_position hi
        rw [ofElements_of_stores he] at hleaf
        obtain ⟨c, hc, rfl⟩ := List.mem_map.mp (List.mem_of_getElem? hleaf)
        exact ⟨c.1, List.fst_mem_of_mem_zipIdx (hp.mem_iff.mp hc), accepts_leafOf.mp haccepts⟩
      · cases hpositions
  obtain ⟨positions, hpositions, -⟩ := positions_of_stores hp he
  unfold detect
  cases hfind : all.find? fun s => (s.positions elements).isOk with
  | none =>
    have hnone := List.find?_eq_none.mp hfind s (by cases s <;> decide)
    rw [hpositions] at hnone
    exact absurd rfl hnone
  | some s' =>
    have hok : (s'.positions elements).isOk = true := by simpa using List.find?_some hfind
    rw [honly s' hok]

end Recognised

end Schema

/-! ## Reading the rows -/

/-- **A field from which a cell can be read.** -/
inductive Field.Gives : Field → Cell → Prop
  | long (n : Int64) : Gives (.long n) (.int64 n)
  | double (x : Double) : Gives (.double x) (.double x)
  | string (s : String) : Gives (.string s) (.utf8 s)
  | bytes (s : String) : Gives (.bytes s.toUTF8) (.utf8 s)

namespace Field.Gives

variable {f : Field}

theorem toInt64 {n : Int64} (h : f.Gives (.int64 n)) : f.toInt64 = .ok n := by
  cases h
  rfl

theorem toDouble {x : Double} (h : f.Gives (.double x)) : f.toDouble = .ok x := by
  cases h
  rfl

theorem toText {s : String} (h : f.Gives (.utf8 s)) : f.toText = .ok s := by
  cases h with
  | string => rfl
  | bytes => rw [Field.toText, fromUTF8?_toUTF8]

end Field.Gives

/-- A stored cell is read as a field that gives the cell. -/
theorem Field.ofStored_stored {type : ColumnType} {tag : Tag} {cell : Cell}
    (ht : type.Tagged tag) (hc : cell.type = type) :
    ∃ f, Field.ofStored type.physical tag cell.stored = .ok f ∧ f.Gives cell := by
  have htext : ∀ s : String, Field.ofStored.asText s.toUTF8 = .ok (.string s) := fun s => by
    rw [Field.ofStored.asText, fromUTF8?_toUTF8]
  subst hc
  cases cell with
  | int64 n =>
    cases ht with
    | int64 => exact ⟨_, rfl, .long n⟩
    | signed => exact ⟨_, rfl, .long n⟩
  | double x =>
    cases ht
    exact ⟨_, rfl, .double x⟩
  | utf8 s =>
    cases ht with
    | text => exact ⟨_, htext s, .string s⟩
    | json => exact ⟨_, htext s, .string s⟩
    | enumeration => exact ⟨_, htext s, .string s⟩
    | bytes => exact ⟨_, rfl, .bytes s⟩
    | bson => exact ⟨_, rfl, .bytes s⟩

namespace Element

variable {e : Element} {elements : List Element} {cell : Cell} {cells : List Cell}

/-- **A cell can stand in a leaf**: the leaf stores its type, under a tag under which it can be read. -/
inductive Takes : Element → Cell → Prop
  | leaf {name : String} {r : Repetition} (type : ColumnType) {tag : Tag} {cell : Cell} : cell.type = type →
    type.Tagged tag → Takes (.leaf name r type.physical tag) cell

/-- Cells that stand in leaves are read as fields that give them. -/
theorem fields_of_takes (h : List.Forall₂ Takes elements cells) :
    ∃ fs, fields elements (cells.map fun cell => some cell.stored) = .ok (fs, []) ∧
      List.Forall₂ (fun cell x => x.2.Gives cell) cells fs := by
  induction h with
  | nil => exact ⟨[], fields_nil _, .nil⟩
  | @cons e cell elements cells htakes _ ih =>
    obtain ⟨fs, hfs, hgives⟩ := ih
    obtain ⟨type, htype, htag⟩ := htakes
    obtain ⟨f, hf, hgive⟩ := Field.ofStored_stored htag htype
    exact ⟨_, fields_cons (field_leaf _ _ _ hf) hfs, .cons hgive hgives⟩

theorem Stores.takes {c : Column} (h : Stores c e) (hc : cell.type = c.type) : e.Takes cell := by
  obtain ⟨-, ht⟩ := h
  exact .leaf c.type hc ht

/-- The fields of a row are those of its cells. -/
theorem fields_of_stores {s : Schema} {order : List (Column × Nat)} (r : s.Row)
    (hp : ∀ c ∈ order, c ∈ s.columns.zipIdx) (he : List.Forall₂ (fun c e => Stores c.1 e) order elements) :
    ∃ fs, fields elements (order.map fun c => some (Schema.Row.cell s r c.2).stored) = .ok (fs, []) ∧
      List.Forall₂ (fun c x => x.2.Gives (Schema.Row.cell s r c.2)) order fs := by
  have htakes : List.Forall₂ (fun c e => e.Takes (Schema.Row.cell s r c.2)) order elements :=
    ((List.forall₂_and_left _ _).mpr ⟨hp, he⟩).imp fun _ _ h => h.2.takes (Schema.Row.type_cell h.1 r)
  obtain ⟨fs, hfs, hgives⟩ := fields_of_takes (List.forall₂_map_right_iff.mpr htakes.flip)
  rw [List.map_map] at hfs
  exact ⟨fs, hfs, List.forall₂_map_left_iff.mp hgives⟩

end Element

/-- A record with the cells of a row in the columns of the schema is that row. -/
theorem Schema.Row.ofRecord_of_gives {s : Schema} {record : Record} {positions : List Nat} (r : s.Row)
    (h : ∀ c ∈ s.columns.zipIdx, ∃ f, fieldAt record positions c.2 = .ok f ∧ f.Gives (cell s r c.2)) :
    ofRecord s record positions = .ok r := by
  cases s with
  | vertex =>
    obtain ⟨f, hf, hid⟩ := h (⟨"id", .int64⟩, 0) (by decide)
    simp only [ofRecord, hf, bind, Except.bind, hid.toInt64]
    rfl
  | edge =>
    obtain ⟨f₀, hf₀, hid⟩ := h (⟨"id", .int64⟩, 0) (by decide)
    obtain ⟨f₁, hf₁, hsrc⟩ := h (⟨"src", .int64⟩, 1) (by decide)
    obtain ⟨f₂, hf₂, hdst⟩ := h (⟨"dst", .int64⟩, 2) (by decide)
    simp only [ofRecord, hf₀, hf₁, hf₂, bind, Except.bind, hid.toInt64, hsrc.toInt64, hdst.toInt64]
    rfl
  | stringAttribute =>
    obtain ⟨f₀, hf₀, hid⟩ := h (⟨"id", .int64⟩, 0) (by decide)
    obtain ⟨f₁, hf₁, hvalue⟩ := h (⟨"value", .utf8⟩, 1) (by decide)
    simp only [ofRecord, hf₀, hf₁, bind, Except.bind, hid.toInt64, hvalue.toText]
    rfl
  | doubleAttribute =>
    obtain ⟨f₀, hf₀, hid⟩ := h (⟨"id", .int64⟩, 0) (by decide)
    obtain ⟨f₁, hf₁, hvalue⟩ := h (⟨"value", .double⟩, 1) (by decide)
    simp only [ofRecord, hf₀, hf₁, bind, Except.bind, hid.toInt64, hvalue.toDouble]
    rfl
  | pairAttribute =>
    obtain ⟨f₀, hf₀, hid⟩ := h (⟨"id", .int64⟩, 0) (by decide)
    obtain ⟨f₁, hf₁, hvalue₁⟩ := h (⟨"value1", .double⟩, 1) (by decide)
    obtain ⟨f₂, hf₂, hvalue₂⟩ := h (⟨"value2", .double⟩, 2) (by decide)
    simp only [ofRecord, hf₀, hf₁, hf₂, bind, Except.bind, hid.toInt64, hvalue₁.toDouble, hvalue₂.toDouble]
    rfl

/-- A record with the cells of a row at the positions of the columns is decoded as that row. -/
theorem Shard.decode_of_gives (shard : Shard) {values rest : List (Option StoredValue)} {fs : Record}
    (r : shard.schema.Row) (hfs : Element.fields shard.table.elements values = .ok (fs, rest))
    (h : ∀ c ∈ shard.schema.columns.zipIdx, ∃ i x, shard.positions[c.2]? = some i ∧ fs[i]? = some x ∧
      x.2.Gives (Schema.Row.cell shard.schema r c.2)) : shard.decode shard.schema values = .ok r := by
  have hrow : Schema.Row.ofRecord shard.schema fs shard.positions = .ok r := by
    refine Schema.Row.ofRecord_of_gives r fun c hc => ?_
    obtain ⟨i, ⟨name, f⟩, hi, hf, hgive⟩ := h c hc
    refine ⟨f, ?_, hgive⟩
    simp only [Schema.Row.fieldAt, hi, Record.at, hf]
  unfold decode Table.record Record.ofValues
  rw [hfs]
  simp only [Except.map, bind, Except.bind, hrow]

theorem RowGroup.held_holding {s : Schema} {order : List (Column × Nat)} (hne : order ≠ []) (rows : List s.Row) :
    (RowGroup.holding s order rows).held = rows.length := by
  cases order with
  | nil => exact absurd rfl hne
  | cons c order => simp [held, holding]

/-- The rows of a group are read in order. -/
theorem RowGroup.rows_holding {s : Schema} {order : List (Column × Nat)} (hne : order ≠ []) (rows : List s.Row) :
    (RowGroup.holding s order rows).rows =
      rows.map fun r => order.map fun c => some (Schema.Row.cell s r c.2).stored := by
  rw [RowGroup.rows, held_holding hne, show (RowGroup.holding s order rows).stated = rows.length from rfl, Nat.min_self]
  apply List.ext_getElem
  · simp
  · intro i h₁ h₂
    have hi : i < rows.length := by simpa using h₂
    simp [row, holding, hi]

/-- **A table that lays rows out is a shard**, and its rows are read group by group. -/
theorem Table.LaysOut.read {t : Table} {s : Schema} {groups : List (List s.Row)} (h : t.LaysOut s groups) :
    ∃ shard, Shard.ofTable t = .ok shard ∧ shard.schema = s ∧ ∀ room, shard.readRows s room = .ok groups.flatten := by
  obtain ⟨order, hp, he, hgroups, hcount⟩ := h
  have hne : order ≠ [] := by
    rintro rfl
    have hlength := hp.length_eq
    cases s <;> cases hlength
  obtain ⟨positions, hpositions, hcolumns⟩ := Schema.positions_of_stores hp he
  have hdecode : ∀ r : s.Row,
      Shard.decode ⟨t, s, positions⟩ s (order.map fun c => some (Schema.Row.cell s r c.2).stored) = .ok r := by
    intro r
    obtain ⟨fs, hfs, hgives⟩ := Element.fields_of_stores r (fun c hc => hp.mem_iff.mp hc) he
    refine Shard.decode_of_gives ⟨t, s, positions⟩ r hfs fun c hc => ?_
    obtain ⟨i, hi, horder⟩ := hcolumns c hc
    obtain ⟨x, hx, hgive⟩ := getElem?_of_forall₂ hgives horder
    exact ⟨i, x, hi, hx, hgive⟩
  have hgroup : ∀ (number room : Nat) (rows : List s.Row),
      Shard.readGroup ⟨t, s, positions⟩ s number (RowGroup.holding s order rows) room = .ok rows := by
    intro number room rows
    have hrows : (RowGroup.holding s order rows).rows.mapM (Shard.decode ⟨t, s, positions⟩ s) = .ok (rows.map id) := by
      rw [RowGroup.rows_holding hne, List.mapM_map]
      exact mapM_of_ok fun r _ => hdecode r
    rw [List.map_id] at hrows
    exact Shard.readGroup_eq_ok.mpr ⟨hrows, Nat.le_of_eq (RowGroup.held_holding hne rows).symm⟩
  refine ⟨⟨t, s, positions⟩, ?_, rfl, fun room => ?_⟩
  · have hsome : t.elements.isEmpty = false := by
      cases helements : t.elements with
      | nil =>
        rw [helements] at he
        cases he
        exact absurd rfl hne
      | cons => rfl
    unfold Shard.ofTable
    rw [hsome]
    simp only [Schema.detect_of_stores hp he, hpositions, bind, Except.bind]
    rfl
  · have hread : t.groups.zipIdx.mapM (fun x => Shard.readGroup ⟨t, s, positions⟩ s x.2 x.1 room) = .ok groups := by
      rw [hgroups, List.zipIdx_map, List.mapM_map]
      have hall : ∀ x ∈ groups.zipIdx,
          Shard.readGroup ⟨t, s, positions⟩ s x.2 (RowGroup.holding s order x.1) room = .ok x.1 :=
        fun x _ => hgroup x.2 room x.1
      exact (mapM_of_ok hall).trans (congrArg _ (List.zipIdx_map_fst 0 groups))
    exact (Shard.readRows_eq_ok rfl).mpr ⟨groups, hread, Or.inl hcount, rfl⟩

end GraphDisk
