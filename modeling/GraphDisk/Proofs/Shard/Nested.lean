import GraphDisk.Proofs.Shard.Record

/-!
# Layouts with groups

Whether a layout is flat is told by two numbers: there have to be as many elements at the top as leaves. A group at the
top is not noticed if the groups hold as many leaves as they are (`Element.balanced_iff`), and then the layout passes
for the flat one of its leaves (`Schema.positions_of_balanced`). So a file with a group may be accepted as a shard, but
no record of it can be read (`Shard.decode_of_not_flat`). What is accepted and what can be read is put together in
`Shard.accepted_layouts`.
-/

namespace GraphDisk

namespace Element

variable {elements : List Element}

/-- A layout has as many elements at the top as leaves. -/
def Balanced (elements : List Element) : Prop := elements.length = (Leaf.ofElements elements).length

theorem length_ofElements (elements : List Element) :
    (Leaf.ofElements elements).length + (elements.filter isGroup).length =
      (Leaf.ofElements (elements.filter isGroup)).length + elements.length := by
  unfold Leaf.ofElements
  induction elements with
  | nil => rfl
  | cons e es ih =>
    cases e with
    | leaf name r physical tag =>
      rw [List.filter_cons_of_neg (by simp [isGroup]), Leaf.ofAll, Leaf.ofElement]
      simp only [List.length_append, List.length_cons, List.length_nil]
      omega
    | group name r inner =>
      rw [List.filter_cons_of_pos (by simp [isGroup]), Leaf.ofAll, Leaf.ofAll]
      simp only [List.length_append, List.length_cons]
      omega

/-- **Groups are not noticed** iff there are as many leaves in them as there are groups at the top. -/
theorem balanced_iff : Balanced elements ↔
    (Leaf.ofElements (elements.filter isGroup)).length = (elements.filter isGroup).length := by
  have := length_ofElements elements
  unfold Balanced
  omega

end Element

/-- A leaf as a layout has it where there are no groups. -/
def Leaf.element (l : Leaf) : Element := .leaf l.name (if l.repeats then .repeated else .required) l.physical .plain

theorem Leaf.ofElements_map_element (leaves : List Leaf) : Leaf.ofElements (leaves.map Leaf.element) = leaves := by
  unfold ofElements
  induction leaves with
  | nil => rfl
  | cons l ls ih =>
    obtain ⟨name, physical, repeats⟩ := l
    rw [List.map_cons, ofAll, ih, element, ofElement]
    cases repeats <;> rfl

namespace Schema

variable {s : Schema} {elements : List Element} {positions : List Nat}

theorem positions_of_unbalanced (s : Schema) (h : ¬ Element.Balanced elements) :
    s.positions elements = .error (.columnCount s (Leaf.ofElements elements).length) := by
  unfold positions
  exact if_neg fun hflat => h hflat.1

theorem detect_of_unbalanced (h : ¬ Element.Balanced elements) :
    detect elements = .error (.unknownColumns (Leaf.ofElements elements)) := by
  have hnone : all.find? (fun s => (s.positions elements).isOk) = none := by
    rw [List.find?_eq_none]
    intro s _
    rw [positions_of_unbalanced s h]
    simp [Except.isOk, Except.toBool]
  unfold detect
  rw [hnone]

/-- **A balanced layout passes for the flat one of its leaves.** -/
theorem positions_of_balanced (s : Schema) (h : Element.Balanced elements) :
    s.positions elements = s.positions ((Leaf.ofElements elements).map Leaf.element) := by
  unfold Element.Balanced at h
  unfold positions
  simp only [Leaf.ofElements_map_element, List.length_map, h]

theorem detect_of_balanced (h : Element.Balanced elements) :
    detect elements = detect ((Leaf.ofElements elements).map Leaf.element) := by
  unfold detect
  simp only [← positions_of_balanced _ h, Leaf.ofElements_map_element]

theorem balanced_of_positions (h : s.positions elements = .ok positions) : Element.Balanced elements := by
  by_contra hno
  rw [positions_of_unbalanced s hno] at h
  cases h

end Schema

namespace Shard

variable {t : Table} {shard : Shard} {values : List (Option StoredValue)} {room : Nat}

/-- **No record of an accepted layout with a group is decoded**: the group is at the position of some column. -/
theorem decode_of_not_flat (h : ofTable t = .ok shard) (hg : ¬ Element.Flat t.elements)
    (values : List (Option StoredValue)) : ∃ e, shard.decode shard.schema values = .error e := by
  obtain ⟨rfl, -, hp⟩ := ofTable_eq_ok.mp h
  unfold Element.Flat at hg
  push Not at hg
  obtain ⟨e, he, hgroup⟩ := hg
  obtain ⟨k, hk⟩ := List.mem_iff_getElem?.mp he
  rcases ok_or_error (shard.decode shard.schema values) with ⟨row, hrow⟩ | hfail
  · exfalso
    obtain ⟨record, rest, hfields, hread⟩ := decode_eq_ok.mp hrow
    obtain ⟨x, hx, hreadable⟩ := Schema.Row.readable_at hp hread (List.getElem?_eq_some_iff.mp hk).1
    obtain ⟨f, before, behind, hfound, hfield⟩ := Element.getElem?_fields hfields hk
    rw [hfound] at hx
    cases hx
    exact Element.not_readable_of_group (by simpa using hgroup) hfield hreadable
  · exact hfail

/-- Rows that cannot be decoded are missed only where none are stated. -/
theorem readRows_of_no_decode (h : ∀ values, ∃ e, shard.decode shard.schema values = .error e) :
    (∃ rows, shard.readRows shard.schema room = .ok rows) ↔
      (∀ group ∈ shard.table.groups, group.stated = 0) ∧ shard.schema.Reservable room 0 shard.table.rowCount := by
  have hgroup : ∀ group : RowGroup, ((∃ values ∈ group.rows, ∃ e, shard.decode shard.schema values = .error e) ∨
      group.rows.length ≠ group.stated) ↔ group.stated ≠ 0 := by
    intro group
    cases hrows : group.rows with
    | nil => simp [eq_comm]
    | cons values rest =>
      have hlength : group.rows.length ≤ group.stated := by
        rw [group.length_rows]
        exact Nat.min_le_left ..
      rw [hrows, List.length_cons] at hlength
      exact iff_of_true (Or.inl ⟨values, List.mem_cons_self, h values⟩) (by omega)
  have hnone : (∀ group ∈ shard.table.groups, group.stated = 0) → shard.table.rows.length = 0 := by
    intro hall
    rw [List.length_eq_zero_iff, Table.rows, List.flatMap_eq_nil_iff]
    intro group hg
    rw [← List.length_eq_zero_iff, group.length_rows, hall group hg, Nat.zero_min]
  have hfails : (∃ e, shard.readRows shard.schema room = .error e) ↔ _ := readRows_fails rfl
  simp only [hgroup] at hfails
  have hok : (∃ rows, shard.readRows shard.schema room = .ok rows) ↔ (∀ group ∈ shard.table.groups, group.stated = 0) ∧
      shard.schema.Reservable room shard.table.rows.length shard.table.rowCount := by
    rw [← not_iff_not, ← exists_error_iff, hfails, not_and_or]
    push Not
    rfl
  rw [hok]
  exact and_congr_right fun hall => by rw [hnone hall]

/-! ## Which layouts are accepted -/

/-- **Groups are told from leaves by number only.** A layout is refused if the groups at its top do not hold as many
leaves as they are. Otherwise it passes for the flat layout of its leaves, and may be accepted. Where there are no
groups, the leaf at a position is the field of a record at that position, and cells that can stand in the leaves are
read if the stated counts are true. Where there is a group, no record at all can be read. -/
theorem accepted_layouts (t : Table) :
    (Element.Balanced t.elements ↔ (Leaf.ofElements (t.elements.filter Element.isGroup)).length =
      (t.elements.filter Element.isGroup).length) ∧
    (¬ Element.Balanced t.elements →
      (∀ s : Schema, s.positions t.elements = .error (.columnCount s t.leaves.length)) ∧
      Schema.detect t.elements = .error (.unknownColumns t.leaves) ∧
      ∀ (fs : FileSystem) p, fs.find p = .ok (.file (.table t)) →
        fs.openShard p = .error (.invalidFormat (.inFile p (.unknownColumns t.leaves)))) ∧
    (Element.Balanced t.elements →
      (∀ s : Schema, s.positions t.elements = s.positions (t.leaves.map Leaf.element)) ∧
      Schema.detect t.elements = Schema.detect (t.leaves.map Leaf.element)) ∧
    ∀ shard, ofTable t = .ok shard → Element.Balanced t.elements ∧ shard.positions.Perm (List.range t.elements.length) ∧
      (Element.Flat t.elements →
        (∀ (i : Nat) leaf, t.leaves[i]? = some leaf → ∃ e, t.elements[i]? = some e ∧ Leaf.ofElement false e = [leaf] ∧
          ∀ values record v, t.record values = .ok record → values[i]? = some v →
            ∃ f, record[i]? = some (leaf.name, f) ∧ e.Reads v f) ∧
        (t.Counted → (∀ group ∈ t.groups, group.rows.length = group.stated ∧ ∀ values ∈ group.rows, ∃ cells,
            List.Forall₂ Element.Takes t.elements cells ∧ values = cells.map fun cell => some cell.stored) →
          ∀ room, ∃ rows, shard.readRows shard.schema room = .ok rows)) ∧
      (¬ Element.Flat t.elements →
        (∀ values, ∃ e, shard.decode shard.schema values = .error e) ∧
        ∀ room, (∃ rows, shard.readRows shard.schema room = .ok rows) ↔
          (∀ group ∈ t.groups, group.stated = 0) ∧ shard.schema.Reservable room 0 t.rowCount) := by
  refine ⟨Element.balanced_iff, fun hno => ⟨fun s => Schema.positions_of_unbalanced s hno,
    Schema.detect_of_unbalanced hno, fun fs p hfind => ?_⟩,
    fun h => ⟨fun s => Schema.positions_of_balanced s h, Schema.detect_of_balanced h⟩, fun shard h => ?_⟩
  · have hrefused : ofTable t = .error (.unknownColumns t.leaves) := by
      have hsome : t.elements.isEmpty = false := by
        cases helements : t.elements with
        | nil => exact absurd (by rw [helements]; rfl) hno
        | cons => rfl
      unfold ofTable
      rw [hsome, Schema.detect_of_unbalanced hno]
      rfl
    unfold FileSystem.openShard
    simp only [hfind, hrefused]
  · obtain ⟨htable, -, hp⟩ := ofTable_eq_ok.mp h
    refine ⟨Schema.balanced_of_positions hp, Schema.positions_perm hp, fun hflat => ⟨fun i leaf hleaf => ?_,
      readRows_of_takes h⟩, fun hgroup => ?_⟩
    · obtain ⟨e, he, hone, hname⟩ := Leaf.getElem?_of_flat hflat hleaf
      refine ⟨e, he, hone, fun values record v hrecord hv => ?_⟩
      obtain ⟨⟨fields, rest⟩, hfields, hrecord⟩ := exists_of_map_eq_ok hrecord
      cases hrecord
      rw [← hname]
      exact Element.reads_of_flat hflat hfields he hv
    · have hdecode := decode_of_not_flat h hgroup
      refine ⟨hdecode, fun room => ?_⟩
      have hread : (∃ rows, shard.readRows shard.schema room = .ok rows) ↔ _ := readRows_of_no_decode hdecode
      rw [htable] at hread
      exact hread

/-- A vertex in a group. -/
def nestedVertex : Table :=
  { elements := [.group "g" .required [.leaf "id" .required .int64 .plain]], groups := [⟨[#[some (.integer 7)]], 1⟩],
    stated := 1, createdBy := none }

/-- A vertex as another writer may store it. -/
def plainVertex : Table :=
  { elements := [.leaf "id" .optional .int64 .signed64], groups := [⟨[#[some (.integer 7)]], 1⟩], stated := 1,
    createdBy := none }

theorem plainVertex_read : ∃ shard rows, ofTable plainVertex = .ok shard ∧ shard.readRows shard.schema = .ok rows := by
  have hopened : ofTable plainVertex = .ok ⟨plainVertex, .vertex, [0]⟩ := rfl
  obtain ⟨-, -, -, haccepted⟩ := accepted_layouts plainVertex
  obtain ⟨-, -, hflat, -⟩ := haccepted _ hopened
  obtain ⟨-, hread⟩ := hflat (List.forall_mem_singleton.mpr rfl)
  have htakes : Element.Takes (.leaf "id" .optional .int64 .signed64) (.int64 7) := .leaf .int64 rfl .signed
  obtain ⟨rows, hrows⟩ := hread (by decide) (List.forall_mem_singleton.mpr ⟨rfl, List.forall_mem_singleton.mpr
    ⟨[.int64 7], .cons htakes .nil, rfl⟩⟩) maxAllocation
  exact ⟨_, rows, hopened, hrows⟩

/-- **A vertex in a group is accepted as a shard**, but it cannot be read. -/
theorem nestedVertex_accepted : Schema.detect nestedVertex.elements = .ok .vertex ∧
    Schema.vertex.positions nestedVertex.elements = .ok [0] ∧
    ofTable nestedVertex = .ok ⟨nestedVertex, .vertex, [0]⟩ ∧
    Shard.readRows ⟨nestedVertex, .vertex, [0]⟩ .vertex = .error (.table (.access "Group" "Long")) := by
  exact ⟨rfl, rfl, rfl, rfl⟩

end Shard

end GraphDisk
