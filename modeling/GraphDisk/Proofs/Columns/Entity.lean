import GraphDisk.Proofs.Attribute
import GraphDisk.Proofs.Columns.Indexing

/-!
# Entities as columns

An entity can be held as columns beside each other: the values of an attribute apart from the flags that say which of
them are defined, the ends of edges apart from their ids, the ids of a vertex set apart from the positions of the ids.
Nothing in such a form keeps the columns of an entity at one length; the constructors compare the lengths
(`Columns.ofEdges`, `Columns.ofDoubles`, `Columns.ofStrings`, `Columns.ofPairs`), and everything after them indexes one
column with the indices of another one.

Here each function on entities is followed by the one on columns that indexes, and the two are proved equal on the
columns of an entity: `Attribute.getAt_columns` for the value of a slot, `Entity.indexedRows_columns` for the rows of an
entity, `EdgeBundle.edgesOf_columns` and `Attribute.spread_columns` for the columns that rows make.
-/

namespace GraphDisk

variable {α : Type}

/-! ## Columns -/

/-- The columns of a vertex set: its ids in two copies, and the last position of each id. -/
structure VertexColumns where
  mapping : Array Int64
  toUnordered : Array Int64
  toOrdered : Std.HashMap Int64 Nat

/-- An entity as columns. -/
inductive Columns where
  | scalar (value : Json.Value)
  | vertexSet (vs : VertexColumns)
  | edgeBundle (src dst : Array Nat) (ids : Array Int64)
  | doubleAttribute (values : Array Double) (defined : Array Bool)
  | stringAttribute (values : Array String) (defined : Array Bool)
  | pairAttribute (firsts seconds : Array Double) (defined : Array Bool)

/-- The columns of a list of external ids. -/
def VertexColumns.ofIds (ids : Array Int64) : VertexColumns := ⟨ids, ids, lastPositions ids.toList⟩

/-- The number of vertices. -/
def VertexColumns.size (vs : VertexColumns) : Nat := vs.toUnordered.size

namespace Columns

/-- The kind of an entity. -/
def kind : Columns → Kind
  | scalar _ => .scalar
  | vertexSet _ => .vertexSet
  | edgeBundle .. => .edgeBundle
  | doubleAttribute .. => .doubleAttribute
  | stringAttribute .. => .stringAttribute
  | pairAttribute .. => .pairAttribute

/-- Three columns of edges, if they have the same length. -/
def ofEdges (src dst : Array Nat) (ids : Array Int64) : Except Error Columns :=
  if src.size = dst.size ∧ src.size = ids.size then .ok (edgeBundle src dst ids)
  else .error (.invalidEntity (.edgeColumns src.size dst.size ids.size))

/-- Two columns of doubles, if they have the same length. -/
def ofDoubles (values : Array Double) (defined : Array Bool) : Except Error Columns :=
  if values.size = defined.size then .ok (doubleAttribute values defined)
  else .error (.invalidEntity (.attributeColumns .doubleAttribute [values.size, defined.size]))

/-- Two columns of texts, if they have the same length. -/
def ofStrings (values : Array String) (defined : Array Bool) : Except Error Columns :=
  if values.size = defined.size then .ok (stringAttribute values defined)
  else .error (.invalidEntity (.attributeColumns .stringAttribute [values.size, defined.size]))

/-- Three columns of pairs, if they have the same length. -/
def ofPairs (firsts seconds : Array Double) (defined : Array Bool) : Except Error Columns :=
  if firsts.size = seconds.size ∧ seconds.size = defined.size then .ok (pairAttribute firsts seconds defined)
  else .error (.invalidEntity (.attributeColumns .pairAttribute [firsts.size, seconds.size, defined.size]))

/-- **Columns that a constructor gives.** -/
inductive Constructed : Columns → Prop
  | scalar (value : Json.Value) : Constructed (scalar value)
  | vertexSet (ids : Array Int64) : Constructed (vertexSet (.ofIds ids))
  | edges {src dst : Array Nat} {ids : Array Int64} {c : Columns} : ofEdges src dst ids = .ok c → Constructed c
  | doubles {values : Array Double} {defined : Array Bool} {c : Columns} :
    ofDoubles values defined = .ok c → Constructed c
  | strings {values : Array String} {defined : Array Bool} {c : Columns} :
    ofStrings values defined = .ok c → Constructed c
  | pairs {firsts seconds : Array Double} {defined : Array Bool} {c : Columns} :
    ofPairs firsts seconds defined = .ok c → Constructed c

/-- **The columns of an entity are aligned**: they have one length, the two copies of the ids of a vertex set are the
same, and the position of an id is that of a vertex. -/
def Aligned : Columns → Prop
  | scalar _ => True
  | vertexSet vs => vs.mapping = vs.toUnordered ∧ ∀ (id : Int64) (i : Nat), vs.toOrdered[id]? = some i → i < vs.size
  | edgeBundle src dst ids => src.size = dst.size ∧ src.size = ids.size
  | doubleAttribute values defined => values.size = defined.size
  | stringAttribute values defined => values.size = defined.size
  | pairAttribute firsts seconds defined => firsts.size = seconds.size ∧ seconds.size = defined.size

end Columns

/-! ## The columns of entities -/

/-- The columns of a vertex set. -/
def VertexSet.columns (vs : VertexSet) : VertexColumns := ⟨vs.ids, vs.ids, vs.positions⟩

/-- The columns of an entity. -/
def Entity.columns : Entity → Columns
  | .scalar value => .scalar value
  | .vertexSet vs => .vertexSet vs.columns
  | .edgeBundle eb => .edgeBundle eb.sources eb.destinations eb.ids
  | .doubleAttribute a => .doubleAttribute a.values a.defined
  | .stringAttribute a => .stringAttribute a.values a.defined
  | .pairAttribute a => .pairAttribute (a.values.map Prod.fst) (a.values.map Prod.snd) a.defined

@[simp] theorem Entity.kind_columns (x : Entity) : x.columns.kind = x.kind := by cases x <;> rfl

@[simp] theorem Attribute.size_values (a : Attribute α) : a.values.size = a.size := by simp [values, size]

@[simp] theorem Attribute.size_defined (a : Attribute α) : a.defined.size = a.size := by simp [defined, size]

/-- **The columns of an entity are aligned.** -/
theorem Entity.aligned_columns (x : Entity) : x.columns.Aligned := by
  cases x with
  | scalar value => trivial
  | vertexSet vs => exact ⟨rfl, fun id i h => VertexSet.orderedIndex?_lt h⟩
  | edgeBundle eb => simp [columns, Columns.Aligned, EdgeBundle.sources, EdgeBundle.destinations, EdgeBundle.ids]
  | doubleAttribute a => simp [columns, Columns.Aligned]
  | stringAttribute a => simp [columns, Columns.Aligned]
  | pairAttribute a => simp [columns, Columns.Aligned]

/-! ## Constructors -/

section Constructors

variable {β : Type} {c : Columns}

/-- The constructor of edge bundles keeps the columns that it is given. -/
theorem EdgeBundle.map_ofColumns (src dst : Array Nat) (ids : Array Int64) :
    (EdgeBundle.ofColumns src dst ids).map (fun eb => (Entity.edgeBundle eb).columns) =
      Columns.ofEdges src dst ids := by
  unfold Columns.ofEdges
  by_cases h : src.size = dst.size ∧ src.size = ids.size
  · have hpair : (ids.zip (src.zip dst)).map Prod.snd = src.zip dst := Array.map_snd_zip (by simp; omega)
    have hids : (ids.zip (src.zip dst)).map Prod.fst = ids := Array.map_fst_zip (by simp; omega)
    have hsrc : (src.zip dst).map Prod.fst = src := Array.map_fst_zip (by omega)
    have hdst : (src.zip dst).map Prod.snd = dst := Array.map_snd_zip (by omega)
    have hsources : ((ids.zip (src.zip dst)).map fun x => Edge.mk x.1 x.2.1 x.2.2).map Edge.src = src := by
      calc ((ids.zip (src.zip dst)).map fun x => Edge.mk x.1 x.2.1 x.2.2).map Edge.src
          = ((ids.zip (src.zip dst)).map Prod.snd).map Prod.fst := by rw [Array.map_map, Array.map_map]; rfl
        _ = src := by rw [hpair, hsrc]
    have hdestinations : ((ids.zip (src.zip dst)).map fun x => Edge.mk x.1 x.2.1 x.2.2).map Edge.dst = dst := by
      calc ((ids.zip (src.zip dst)).map fun x => Edge.mk x.1 x.2.1 x.2.2).map Edge.dst
          = ((ids.zip (src.zip dst)).map Prod.snd).map Prod.snd := by rw [Array.map_map, Array.map_map]; rfl
        _ = dst := by rw [hpair, hdst]
    have hedges : ((ids.zip (src.zip dst)).map fun x => Edge.mk x.1 x.2.1 x.2.2).map Edge.id = ids := by
      calc ((ids.zip (src.zip dst)).map fun x => Edge.mk x.1 x.2.1 x.2.2).map Edge.id
          = (ids.zip (src.zip dst)).map Prod.fst := by rw [Array.map_map]; rfl
        _ = ids := hids
    have hcolumns : EdgeBundle.ofColumns src dst ids =
        .ok ⟨(ids.zip (src.zip dst)).map fun x => Edge.mk x.1 x.2.1 x.2.2⟩ := if_pos h
    rw [hcolumns, if_pos h]
    simp only [Except.map, Entity.columns, EdgeBundle.sources, EdgeBundle.destinations, EdgeBundle.ids, hsources,
      hdestinations, hedges]
  · rw [EdgeBundle.ofColumns, if_neg h, if_neg h]
    rfl

/-- The constructor of attributes keeps the columns that it is given. -/
theorem Attribute.map_ofColumns (kind : Kind) (values : Array α) (defined : Array Bool) :
    (Attribute.ofColumns kind values defined).map (fun a => (a.values, a.defined)) =
      if values.size = defined.size then .ok (values, defined)
      else .error (.invalidEntity (.attributeColumns kind [values.size, defined.size])) := by
  by_cases h : values.size = defined.size
  · have hvalues : ((values.zip defined).map fun x => Slot.mk x.1 x.2).map Slot.value = values := by
      rw [Array.map_map]
      exact Array.map_fst_zip (by omega)
    have hdefined : ((values.zip defined).map fun x => Slot.mk x.1 x.2).map Slot.defined = defined := by
      rw [Array.map_map]
      exact Array.map_snd_zip (by omega)
    have hcolumns : Attribute.ofColumns kind values defined = .ok ⟨(values.zip defined).map fun x => Slot.mk x.1 x.2⟩ :=
      if_pos h
    rw [hcolumns, if_pos h]
    simp only [Except.map, Attribute.values, Attribute.defined, hvalues, hdefined]
  · rw [Attribute.ofColumns, if_neg h, if_neg h]
    rfl

/-- The constructor of attributes of pairs keeps the columns that it is given. -/
theorem Attribute.map_ofPairColumns (kind : Kind) (firsts : Array α) (seconds : Array β) (defined : Array Bool) :
    (Attribute.ofPairColumns kind firsts seconds defined).map
        (fun a => (a.values.map Prod.fst, a.values.map Prod.snd, a.defined)) =
      if firsts.size = seconds.size ∧ seconds.size = defined.size then .ok (firsts, seconds, defined)
      else .error (.invalidEntity (.attributeColumns kind [firsts.size, seconds.size, defined.size])) := by
  by_cases h : firsts.size = seconds.size ∧ seconds.size = defined.size
  · have hvalues : (((firsts.zip seconds).zip defined).map fun x => Slot.mk x.1 x.2).map Slot.value =
        firsts.zip seconds := by
      rw [Array.map_map]
      exact Array.map_fst_zip (by simp; omega)
    have hdefined : (((firsts.zip seconds).zip defined).map fun x => Slot.mk x.1 x.2).map Slot.defined = defined := by
      rw [Array.map_map]
      exact Array.map_snd_zip (by simp; omega)
    have hfirsts : (firsts.zip seconds).map Prod.fst = firsts := Array.map_fst_zip (by omega)
    have hseconds : (firsts.zip seconds).map Prod.snd = seconds := Array.map_snd_zip (by omega)
    have hcolumns : Attribute.ofPairColumns kind firsts seconds defined =
        .ok ⟨((firsts.zip seconds).zip defined).map fun x => Slot.mk x.1 x.2⟩ := if_pos h
    rw [hcolumns, if_pos h]
    simp only [Except.map, Attribute.values, Attribute.defined, hvalues, hdefined, hfirsts, hseconds]
  · rw [Attribute.ofPairColumns, if_neg h, if_neg h]
    rfl

/-- **What a constructor gives are the columns of an entity.** -/
theorem Columns.Constructed.entity (h : c.Constructed) : ∃ x : Entity, c = x.columns := by
  cases h with
  | scalar value => exact ⟨.scalar value, rfl⟩
  | vertexSet ids => exact ⟨.vertexSet (.ofIds ids), rfl⟩
  | edges h =>
    rw [← EdgeBundle.map_ofColumns] at h
    obtain ⟨eb, -, rfl⟩ := exists_of_map_eq_ok h
    exact ⟨.edgeBundle eb, rfl⟩
  | @doubles values defined _ h =>
    unfold Columns.ofDoubles at h
    split at h
    · rename_i hsize
      obtain ⟨a, -, ha⟩ :=
        exists_of_map_eq_ok ((Attribute.map_ofColumns .doubleAttribute values defined).trans (if_pos hsize))
      cases ha
      cases h
      exact ⟨.doubleAttribute a, rfl⟩
    · cases h
  | @strings values defined _ h =>
    unfold Columns.ofStrings at h
    split at h
    · rename_i hsize
      obtain ⟨a, -, ha⟩ :=
        exists_of_map_eq_ok ((Attribute.map_ofColumns .stringAttribute values defined).trans (if_pos hsize))
      cases ha
      cases h
      exact ⟨.stringAttribute a, rfl⟩
    · cases h
  | @pairs firsts seconds defined _ h =>
    unfold Columns.ofPairs at h
    split at h
    · rename_i hsize
      obtain ⟨a, -, ha⟩ :=
        exists_of_map_eq_ok ((Attribute.map_ofPairColumns .pairAttribute firsts seconds defined).trans (if_pos hsize))
      cases ha
      cases h
      exact ⟨.pairAttribute a, rfl⟩
    · cases h

end Constructors

/-- **The columns of an entity pass the constructor.** -/
theorem Columns.ofEdges_columns (eb : EdgeBundle) :
    ofEdges eb.sources eb.destinations eb.ids = .ok (Entity.edgeBundle eb).columns :=
  if_pos (Entity.aligned_columns (.edgeBundle eb))

theorem Columns.ofDoubles_columns (a : Attribute Double) :
    ofDoubles a.values a.defined = .ok (Entity.doubleAttribute a).columns :=
  if_pos (Entity.aligned_columns (.doubleAttribute a))

theorem Columns.ofStrings_columns (a : Attribute String) :
    ofStrings a.values a.defined = .ok (Entity.stringAttribute a).columns :=
  if_pos (Entity.aligned_columns (.stringAttribute a))

theorem Columns.ofPairs_columns (a : Attribute (Double × Double)) :
    ofPairs (a.values.map Prod.fst) (a.values.map Prod.snd) a.defined = .ok (Entity.pairAttribute a).columns :=
  if_pos (Entity.aligned_columns (.pairAttribute a))

/-! ## Slots -/

/-- The value of a slot of an attribute of some kind. -/
inductive SlotValue where
  | double (value : Double)
  | text (value : String)
  | pair (first second : Double)

/-- The value of a slot, if it is defined. -/
def Entity.slot? : Entity → Nat → Option SlotValue
  | .doubleAttribute a, index => (a.get? index).map .double
  | .stringAttribute a, index => (a.get? index).map .text
  | .pairAttribute a, index => (a.get? index).map fun v => .pair v.1 v.2
  | _, _ => none

/-- The value of a slot, if the flags say that it is defined. -/
def getAt (value : Nat → Except Halt α) (defined : Array Bool) (index : Nat) : Except Halt (Option α) :=
  match defined[index]? with
  | some true => (value index).map some
  | _ => .ok none

/-- The pair of the values that two columns have at an index. -/
def pairAt (firsts seconds : Array Double) (index : Nat) : Except Halt (Double × Double) := do
  return (← bounded firsts[index]?, ← bounded seconds[index]?)

/-- The value of a slot, if it is defined, where the columns of values are indexed. -/
def Columns.slot? : Columns → Nat → Except Halt (Option SlotValue)
  | .doubleAttribute values defined, index =>
    (getAt (fun i => bounded values[i]?) defined index).map (Option.map .double)
  | .stringAttribute values defined, index => (getAt (fun i => bounded values[i]?) defined index).map (Option.map .text)
  | .pairAttribute firsts seconds defined, index =>
    (getAt (pairAt firsts seconds) defined index).map (Option.map fun v => .pair v.1 v.2)
  | _, _ => .ok none

namespace Attribute

variable {a : Attribute α} {value : Nat → Except Halt α}

/-- **Indexing gives the values of an attribute.** -/
def ReadBy (a : Attribute α) (value : Nat → Except Halt α) : Prop :=
  ∀ i slot, a.slots[i]? = some slot → value i = .ok slot.value

theorem readBy_values (a : Attribute α) : a.ReadBy fun i => bounded a.values[i]? := by
  intro i slot h
  simp only [values, Array.getElem?_map, h, Option.map_some, bounded]

theorem readBy_pairs (a : Attribute (Double × Double)) :
    a.ReadBy (pairAt (a.values.map Prod.fst) (a.values.map Prod.snd)) := by
  intro i slot h
  simp only [pairAt, values, Array.getElem?_map, h, Option.map_some, bounded]
  rfl

/-- A slot is indexed only if there is one. -/
theorem getAt_columns (h : a.ReadBy value) (index : Nat) : getAt value a.defined index = .ok (a.get? index) := by
  unfold getAt Attribute.get? Attribute.defined
  rw [Array.getElem?_map]
  cases hs : a.slots[index]? with
  | none => rfl
  | some slot =>
    obtain ⟨v, defined⟩ := slot
    cases defined with
    | false => rfl
    | true =>
      simp only [Option.map_some, h index _ hs]
      rfl

end Attribute

/-- **The value of a slot** is found by indexing. -/
theorem Entity.slot?_columns (x : Entity) (index : Nat) : x.columns.slot? index = .ok (x.slot? index) := by
  cases x with
  | scalar value => rfl
  | vertexSet vs => rfl
  | edgeBundle eb => rfl
  | doubleAttribute a =>
    simp only [columns, Columns.slot?, Attribute.getAt_columns a.readBy_values, slot?]
    rfl
  | stringAttribute a =>
    simp only [columns, Columns.slot?, Attribute.getAt_columns a.readBy_values, slot?]
    rfl
  | pairAttribute a =>
    simp only [columns, Columns.slot?, Attribute.getAt_columns a.readBy_pairs, slot?]
    rfl

/-! ## From ordered indices to external ids -/

/-- The columns of a vertex set that something refers to, with its guid. -/
structure ColumnDependency where
  guid : Guid
  vertices : VertexColumns

namespace ColumnDependency

/-- The external id of an ordered index. -/
def externalId (d : ColumnDependency) (index : Nat) : Except Error Int64 :=
  match d.vertices.toUnordered[index]? with
  | some id => .ok id
  | none => .error (.indexOutOfRange d.guid index)

/-- The ordered index of an external id. -/
def orderedIndex (d : ColumnDependency) (id : Int64) : Except Error Nat :=
  match d.vertices.toOrdered[id]? with
  | some index => .ok index
  | none => .error (.invalidReference d.guid id)

end ColumnDependency

/-- **The indices of columns are in range** of the vertex sets that they refer to. -/
def Columns.InRange (first second : Except Error ColumnDependency) : Columns → Prop
  | scalar _ | vertexSet _ => True
  | edgeBundle src dst _ => ∃ d₁ d₂, first = .ok d₁ ∧ second = .ok d₂ ∧
    (∀ i ∈ src, i < d₁.vertices.size) ∧ ∀ i ∈ dst, i < d₂.vertices.size
  | doubleAttribute values _ => ∃ d, first = .ok d ∧ values.size = d.vertices.size
  | stringAttribute values _ => ∃ d, first = .ok d ∧ values.size = d.vertices.size
  | pairAttribute firsts _ _ => ∃ d, first = .ok d ∧ firsts.size = d.vertices.size

/-- The columns of a vertex set that something refers to. -/
def Dependency.columns (d : Dependency) : ColumnDependency := ⟨d.guid, d.vertices.columns⟩

theorem Dependency.externalId_columns (d : Dependency) (index : Nat) :
    d.columns.externalId index = d.externalId index := rfl

theorem Dependency.orderedIndex_columns (d : Dependency) (id : Int64) :
    d.columns.orderedIndex id = d.orderedIndex id := rfl

/-- A row for each flag that is set, from its index. -/
def definedRows {β : Type} (defined : Array Bool) (row : Nat → Except Halt β) : Except Halt (List β) :=
  (defined.toList.zipIdx.filterMap fun (d, i) => if d then some i else none).mapM row

/-- A row for each defined slot, where the columns of values are indexed. -/
def attributeRows (target : ColumnDependency) (value : Nat → Except Halt α) (defined : Array Bool) :
    Except Halt (List (AttributeRow α)) :=
  definedRows defined fun i => do return { id := ← Halt.lift (target.externalId i), value := ← value i }

/-- A row for each edge. -/
def edgeRows (first second : ColumnDependency) (src dst : Array Nat) (ids : Array Int64) : Except Halt (List EdgeRow) :=
  Halt.lift ((ids.zip (src.zip dst)).toList.mapM fun (id, s, t) => do
    return { id, src := ← first.externalId s, dst := ← second.externalId t })

/-- The rows of an entity on disk, where its columns are indexed. -/
def Columns.indexedRows (first second : Except Error ColumnDependency) : Columns → Except Halt RowBlock
  | .scalar _ => .error (.error (.unsupportedKind Kind.scalar.name))
  | .vertexSet vs => return ⟨.vertex, vs.toUnordered.toList.map VertexRow.mk⟩
  | .edgeBundle src dst ids => do
    let first ← Halt.lift first
    let second ← Halt.lift second
    return ⟨.edge, ← edgeRows first second src dst ids⟩
  | .doubleAttribute values defined => do
    return ⟨.doubleAttribute, ← attributeRows (← Halt.lift first) (fun i => bounded values[i]?) defined⟩
  | .stringAttribute values defined => do
    return ⟨.stringAttribute, ← attributeRows (← Halt.lift first) (fun i => bounded values[i]?) defined⟩
  | .pairAttribute firsts seconds defined => do
    return ⟨.pairAttribute, ← attributeRows (← Halt.lift first) (pairAt firsts seconds) defined⟩

namespace Attribute

variable {a : Attribute α} {value : Nat → Except Halt α}

/-- The flags that are set are those of the defined slots. -/
theorem indices_defined (a : Attribute α) :
    (a.defined.toList.zipIdx.filterMap fun (d, i) => if d then some i else none) =
    a.entries.map Prod.fst := by
  have hslot : ∀ x : Slot α × Nat, (if x.1.defined then some x.2 else none) =
      (if x.1.defined then some (x.2, x.1.value) else none).map Prod.fst := by
    intro x
    split <;> rfl
  unfold Attribute.defined entries
  rw [Array.toList_map, List.zipIdx_map, List.filterMap_map, List.map_filterMap]
  exact List.filterMap_congr fun x _ => hslot x

/-- **The rows of an attribute** are found by indexing. -/
theorem attributeRows_columns (h : a.ReadBy value) (target : Dependency) :
    attributeRows target.columns value a.defined = Halt.lift (a.externalRows target) := by
  unfold attributeRows definedRows Attribute.externalRows
  rw [indices_defined, List.mapM_map, Halt.lift_mapM]
  refine mapM_congr_of_mem fun ⟨i, v⟩ hm => ?_
  have hslot : a.slots[i]? = some ⟨v, true⟩ := get?_eq_some.mp (mem_entries.mp hm)
  simp only [Function.comp_apply, h i _ hslot, Dependency.externalId_columns, Halt.lift_bind]
  rfl

end Attribute

/-- The rows of edges are found column by column. -/
theorem EdgeBundle.edgeRows_columns (eb : EdgeBundle) (first second : Dependency) :
    edgeRows first.columns second.columns eb.sources eb.destinations eb.ids =
      Halt.lift (eb.externalRows first second) := by
  have hzip : (eb.ids.zip (eb.sources.zip eb.destinations)).toList =
      eb.edges.toList.map fun e => (e.id, e.src, e.dst) := by
    simp [EdgeBundle.ids, EdgeBundle.sources, EdgeBundle.destinations, List.zip_map']
  unfold edgeRows EdgeBundle.externalRows
  rw [hzip, List.mapM_map]
  rfl

/-- **The rows of an entity** are found by indexing its columns. -/
theorem Entity.indexedRows_columns (x : Entity) (s : Store) (first second : Option Guid) :
    x.columns.indexedRows ((s.dependency first).map Dependency.columns) ((s.dependency second).map Dependency.columns) =
      Halt.lift (x.externalRows s first second) := by
  have hmap : ∀ {β : Type} (y : Except Error Dependency) (k : ColumnDependency → Except Halt β),
      Halt.lift (y.map Dependency.columns) >>= k = Halt.lift y >>= fun d => k d.columns := by
    intro β y k
    cases y <;> rfl
  cases x with
  | scalar value => rfl
  | vertexSet vs => rfl
  | edgeBundle eb =>
    simp only [columns, Columns.indexedRows, Entity.externalRows, hmap, Halt.lift_bind, EdgeBundle.edgeRows_columns]
    rfl
  | doubleAttribute a =>
    simp only [columns, Columns.indexedRows, Entity.externalRows, hmap, Halt.lift_bind,
      Attribute.attributeRows_columns a.readBy_values]
    rfl
  | stringAttribute a =>
    simp only [columns, Columns.indexedRows, Entity.externalRows, hmap, Halt.lift_bind,
      Attribute.attributeRows_columns a.readBy_values]
    rfl
  | pairAttribute a =>
    simp only [columns, Columns.indexedRows, Entity.externalRows, hmap, Halt.lift_bind,
      Attribute.attributeRows_columns a.readBy_pairs]
    rfl

/-! ## From external ids to ordered indices -/

/-- The first external id that occurs again later. -/
def VertexColumns.firstDuplicate? (vs : VertexColumns) : Option Int64 :=
  if vs.toOrdered.size == vs.toUnordered.size then none
  else (vs.toUnordered.toList.zipIdx.find? fun (id, i) => vs.toOrdered[id]? != some i).map Prod.fst

/-- The columns of a vertex set that some rows make. -/
def VertexColumns.ofRows (policy : DuplicatePolicy) (g : Guid) (rows : List VertexRow) : Except Error VertexColumns :=
  let vs := VertexColumns.ofIds (rows.map VertexRow.id).toArray
  match policy, vs.firstDuplicate? with
  | .reject, some id => .error (.duplicateExternalId g id)
  | _, _ => .ok vs

/-- Adds an edge to each of the columns of edges. -/
def pushEdge (first second : ColumnDependency) (columns : Array Nat × Array Nat × Array Int64) (row : EdgeRow) :
    Except Error (Array Nat × Array Nat × Array Int64) := do
  let s ← first.orderedIndex row.src
  let t ← second.orderedIndex row.dst
  return (columns.1.push s, columns.2.1.push t, columns.2.2.push row.id)

/-- The columns of edges that some rows make. -/
def edgesOf (first second : ColumnDependency) (rows : List EdgeRow) :
    Except Error (Array Nat × Array Nat × Array Int64) :=
  rows.foldlM (pushEdge first second) (#[], #[], #[])

/-- Writes a value and its flag into the columns of an attribute. -/
def writeRow (target : ColumnDependency) (columns : Array α × Array Bool) (row : AttributeRow α) :
    Except Halt (Array α × Array Bool) := do
  let i ← Halt.lift (target.orderedIndex row.id)
  return (← writeAt columns.1 i row.value, ← writeAt columns.2 i true)

/-- The columns of an attribute that some rows make: as long as the vertex set, and written row by row. -/
def spread (zero : α) (target : ColumnDependency) (rows : List (AttributeRow α)) : Except Halt (Array α × Array Bool) :=
  rows.foldlM (writeRow target) (Array.replicate target.vertices.size zero, Array.replicate target.vertices.size false)

theorem VertexSet.ofRows_columns (policy : DuplicatePolicy) (g : Guid) (rows : List VertexRow) :
    VertexColumns.ofRows policy g rows = (VertexSet.ofRows policy g rows).map VertexSet.columns := by
  have hsame : (VertexColumns.ofIds (rows.map VertexRow.id).toArray).firstDuplicate? =
      (VertexSet.ofIds (rows.map VertexRow.id).toArray).firstDuplicate? := rfl
  simp only [VertexColumns.ofRows, VertexSet.ofRows, hsame]
  cases policy <;> cases (VertexSet.ofIds (rows.map VertexRow.id).toArray).firstDuplicate? <;> rfl

namespace EdgeBundle

variable {first second : Dependency}

/-- The edge of a row. -/
def edgeOf (first second : Dependency) (row : EdgeRow) : Except Error Edge := do
  return { id := row.id, src := ← first.orderedIndex row.src, dst := ← second.orderedIndex row.dst }

theorem ofRows_eq (first second : Dependency) (rows : List EdgeRow) :
    ofRows first second rows = (rows.mapM (edgeOf first second)).map fun edges => ⟨edges.toArray⟩ := by
  unfold ofRows
  rw [show (fun r : EdgeRow => (do
    return ({ id := r.id, src := ← first.orderedIndex r.src, dst := ← second.orderedIndex r.dst } : Edge) :
      Except Error Edge)) = edgeOf first second from rfl]
  cases rows.mapM (edgeOf first second) <;> rfl

/-- The columns of edges. -/
def columns (eb : EdgeBundle) : Array Nat × Array Nat × Array Int64 := (eb.sources, eb.destinations, eb.ids)

theorem columns_push (eb : EdgeBundle) (e : Edge) : columns ⟨eb.edges.push e⟩ =
    (eb.sources.push e.src, eb.destinations.push e.dst, eb.ids.push e.id) := by
  simp only [columns, sources, destinations, ids, Array.map_push]

/-- One row adds one edge. -/
theorem pushEdge_columns (eb : EdgeBundle) (row : EdgeRow) : pushEdge first.columns second.columns eb.columns row =
    (edgeOf first second row).map fun e => columns ⟨eb.edges.push e⟩ := by
  unfold pushEdge edgeOf
  rw [Dependency.orderedIndex_columns, Dependency.orderedIndex_columns]
  cases first.orderedIndex row.src with
  | error e => rfl
  | ok s =>
    cases second.orderedIndex row.dst with
    | error e => rfl
    | ok t => exact congrArg Except.ok (columns_push eb ⟨row.id, s, t⟩).symm

theorem foldlM_pushEdge (rows : List EdgeRow) (eb : EdgeBundle) :
    rows.foldlM (pushEdge first.columns second.columns) eb.columns =
      (rows.mapM (edgeOf first second)).map fun edges => columns ⟨eb.edges ++ edges.toArray⟩ := by
  induction rows generalizing eb with
  | nil => simp [pure, Except.pure, Except.map]
  | cons row rows ih =>
    rw [List.foldlM_cons, List.mapM_cons, pushEdge_columns]
    cases edgeOf first second row with
    | error e => rfl
    | ok e =>
      have hrest := ih ⟨eb.edges.push e⟩
      simp only [Except.map, bind, Except.bind] at hrest ⊢
      rw [hrest]
      cases rows.mapM (edgeOf first second) with
      | error e => rfl
      | ok edges => simp only [pure, Except.pure, List.push_append_toArray]

/-- **The columns of edges** grow together. -/
theorem edgesOf_columns (first second : Dependency) (rows : List EdgeRow) :
    edgesOf first.columns second.columns rows = (ofRows first second rows).map columns := by
  have hstart : (#[], #[], #[]) = columns ⟨#[]⟩ := by simp [columns, sources, destinations, ids]
  unfold edgesOf
  rw [ofRows_eq, hstart, foldlM_pushEdge]
  cases rows.mapM (edgeOf first second) with
  | error e => rfl
  | ok edges => simp [Except.map]

/-- **The ends of edges that were read** are those of vertices. -/
theorem lt_of_ofRows {rows : List EdgeRow} {eb : EdgeBundle} (h : ofRows first second rows = .ok eb) :
    (∀ i ∈ eb.sources, i < first.vertices.size) ∧ ∀ i ∈ eb.destinations, i < second.vertices.size := by
  rw [ofRows_eq] at h
  obtain ⟨edges, hedges, rfl⟩ := exists_of_map_eq_ok h
  have hends : ∀ e ∈ edges, e.src < first.vertices.size ∧ e.dst < second.vertices.size := by
    intro e he
    obtain ⟨row, -, hedge⟩ := mem_of_mapM_ok hedges he
    obtain ⟨i, hi, hedge⟩ := bind_eq_ok.mp hedge
    obtain ⟨j, hj, hedge⟩ := bind_eq_ok.mp hedge
    cases hedge
    exact ⟨VertexSet.orderedIndex?_lt (Dependency.orderedIndex_eq_ok.mp hi),
      VertexSet.orderedIndex?_lt (Dependency.orderedIndex_eq_ok.mp hj)⟩
  constructor
  · intro i hi
    obtain ⟨e, he, rfl⟩ := Array.mem_map.mp hi
    exact (hends e (by simpa using he)).1
  · intro i hi
    obtain ⟨e, he, rfl⟩ := Array.mem_map.mp hi
    exact (hends e (by simpa using he)).2

end EdgeBundle

namespace Attribute

variable {target : Dependency}

/-- The write that a row stands for. -/
def writeOf (target : Dependency) (row : AttributeRow α) : Except Error (Nat × α) := do
  return (← target.orderedIndex row.id, row.value)

theorem ofRows_eq (zero : α) (target : Dependency) (rows : List (AttributeRow α)) :
    ofRows zero target rows = (rows.mapM (writeOf target)).map (scatter zero target.vertices.size) := by
  unfold ofRows
  rw [show (fun r : AttributeRow α => (do return (← target.orderedIndex r.id, r.value) : Except Error (Nat × α))) =
    writeOf target from rfl]
  cases rows.mapM (writeOf target) <;> rfl

/-- The columns of an attribute. -/
def columns (a : Attribute α) : Array α × Array Bool := (a.values, a.defined)

/-- **One row is written within the lengths of both columns**, if they are as long as the vertex set. -/
theorem writeRow_columns {a : Attribute α} (h : a.size = target.vertices.size) (row : AttributeRow α) :
    writeRow target.columns a.columns row =
      (Halt.lift (writeOf target row)).map fun w => columns ⟨a.slots.setIfInBounds w.1 ⟨w.2, true⟩⟩ := by
  unfold writeRow writeOf
  rw [Dependency.orderedIndex_columns]
  cases hi : target.orderedIndex row.id with
  | error e => rfl
  | ok i =>
    have hlt : i < a.size := by
      rw [h]
      exact VertexSet.orderedIndex?_lt (Dependency.orderedIndex_eq_ok.mp hi)
    have hvalues : writeAt a.values i row.value = .ok (a.values.setIfInBounds i row.value) :=
      writeAt_of_lt _ (by rw [size_values]; exact hlt)
    have hdefined : writeAt a.defined i true = .ok (a.defined.setIfInBounds i true) :=
      writeAt_of_lt _ (by rw [size_defined]; exact hlt)
    simp only [columns, bind, Except.bind, Halt.lift_ok, hvalues, hdefined, pure, Except.pure, Except.map]
    simp only [values, defined, Array.map_setIfInBounds]

theorem foldlM_writeRow (rows : List (AttributeRow α)) {a : Attribute α} (h : a.size = target.vertices.size) :
    rows.foldlM (writeRow target.columns) a.columns =
      (Halt.lift (rows.mapM (writeOf target))).map fun writes =>
        columns ⟨writes.foldl (fun slots (i, v) => slots.setIfInBounds i ⟨v, true⟩) a.slots⟩ := by
  induction rows generalizing a with
  | nil => rfl
  | cons row rows ih =>
    rw [List.foldlM_cons, List.mapM_cons, writeRow_columns h, Halt.lift_bind]
    cases writeOf target row with
    | error e => rfl
    | ok w =>
      have hsize : (⟨a.slots.setIfInBounds w.1 ⟨w.2, true⟩⟩ : Attribute α).size = target.vertices.size := by
        rw [← h]
        simp [size]
      have hrest := ih hsize
      simp only [Except.map, bind, Except.bind, Halt.lift_ok] at hrest ⊢
      rw [hrest]
      cases rows.mapM (writeOf target) <;> rfl

/-- **The columns of an attribute** are written within their lengths. -/
theorem spread_columns (zero : α) (target : Dependency) (rows : List (AttributeRow α)) :
    spread zero target.columns rows = (Halt.lift (ofRows zero target rows)).map columns := by
  have hstart : (Array.replicate target.vertices.size zero, Array.replicate target.vertices.size false) =
      columns ⟨Array.replicate target.vertices.size ⟨zero, false⟩⟩ := by
    simp [columns, values, defined]
  unfold spread
  rw [ofRows_eq, show target.columns.vertices.size = target.vertices.size from rfl, hstart,
    foldlM_writeRow rows (by simp [size])]
  cases rows.mapM (writeOf target) <;> rfl

/-- **An attribute that was read** has a slot for each vertex. -/
theorem size_of_ofRows {zero : α} {rows : List (AttributeRow α)} {a : Attribute α}
    (h : ofRows zero target rows = .ok a) :
    a.size = target.vertices.size := by
  rw [ofRows_eq] at h
  obtain ⟨writes, -, rfl⟩ := exists_of_map_eq_ok h
  exact size_scatter zero target.vertices.size writes

end Attribute

end GraphDisk
