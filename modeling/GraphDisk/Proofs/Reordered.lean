import GraphDisk.Proofs.UnorderedDisk.NormalForm

/-!
# Rows in another order

Rows make an entity in every order or in none (`Schema.builder_perm`), but not always the same one (`Entity.Reordered`):
vertices are numbered and edges are listed in the order of the rows. An attribute does not depend on the order of its
rows, unless several of them are about the same vertex (`Attribute.ofRows_perm`): different ids have different slots.
-/

namespace GraphDisk

variable {policy : DuplicatePolicy} {g : Guid} {store : Store} {first second : Option Guid}

/-! ## Sort by sort -/

namespace VertexSet

variable {rows rows' : List VertexRow} {vs : VertexSet}

theorem ofRows_perm (hp : rows.Perm rows') (h : ofRows policy g rows = .ok vs) :
    ofRows policy g rows' = .ok (ofIds (rows'.map VertexRow.id).toArray) := by
  have hids := hp.map VertexRow.id
  exact ofRows_eq_ok.mpr ⟨rfl, fun hreject => hids.nodup_iff.mp ((ofRows_eq_ok.mp h).2 hreject)⟩

end VertexSet

theorem EdgeBundle.ofRows_perm {src dst : Dependency} {rows rows' : List EdgeRow}
    {eb : EdgeBundle} (hp : rows.Perm rows')
    (h : ofRows src dst rows = .ok eb) :
    ∃ eb', ofRows src dst rows' = .ok eb' ∧ eb.edges.toList.Perm eb'.edges.toList := by
  obtain ⟨edges, hedges, h⟩ := bind_eq_ok.mp h
  cases h
  obtain ⟨edges', hedges', hp⟩ := mapM_perm hp hedges
  exact ⟨⟨edges'.toArray⟩, bind_eq_ok.mpr ⟨edges', hedges', rfl⟩, hp⟩

namespace Attribute

variable {α : Type} {zero : α} {target : Dependency} {rows rows' : List (AttributeRow α)} {a : Attribute α}

/-- **Different ids have different slots.** -/
theorem nodup_indices (h : ∀ r ∈ rows, target.vertices.orderedIndex? r.id = some (target.indexOf r.id))
    (hn : (rows.map AttributeRow.id).Nodup) : (rows.map fun r => target.indexOf r.id).Nodup := by
  -- the vertex of a slot has the id of the row that is written there
  have hids : rows.map (fun r => target.vertices.externalId? (target.indexOf r.id)) = rows.map fun r => some r.id :=
    List.map_congr_left fun r hr => VertexSet.externalId?_orderedIndex? (h r hr)
  apply List.Nodup.of_map target.vertices.externalId?
  rw [List.map_map, Function.comp_def, hids]
  simpa [Function.comp_def] using hn.map fun _ _ => Option.some.inj

/-- **An attribute does not depend on the order of its rows** if no two of them are about the same vertex. -/
theorem ofRows_perm (hp : rows.Perm rows') (h : ofRows zero target rows = .ok a) :
    ∃ a', ofRows zero target rows' = .ok a' ∧ ((rows.map AttributeRow.id).Nodup → a = a') := by
  obtain ⟨rfl, hindex⟩ := ofRows_ok h
  have hids : ∀ r ∈ rows', r.id ∈ target.vertices.ids := fun r hr =>
    VertexSet.mem_of_externalId? (VertexSet.externalId?_orderedIndex? (hindex r (hp.mem_iff.mpr hr)))
  refine ⟨_, ofRows_of_ids zero hids, fun hn => scatter_perm (hp.map _) ?_ zero _⟩
  rw [List.map_map]
  exact nodup_indices hindex hn

end Attribute

/-! ## All sorts -/

/-- **What the order of the rows does to the entity** that is made of them. -/
inductive Entity.Reordered : (s : Schema) → List s.Row → List s.Row → Entity → Entity → Prop
  /-- Vertices are numbered in the order of the rows. -/
  | vertexSet {rows rows' : List VertexRow} {vs vs' : VertexSet} : vs.ids.toList = rows.map VertexRow.id →
      vs'.ids.toList = rows'.map VertexRow.id → vs.ids.toList.Perm vs'.ids.toList →
      Reordered .vertex rows rows' (.vertexSet vs) (.vertexSet vs')
  /-- The edges are the same ones. -/
  | edgeBundle {rows rows' : List EdgeRow} {eb eb' : EdgeBundle} : eb.edges.toList.Perm eb'.edges.toList →
      Reordered .edge rows rows' (.edgeBundle eb) (.edgeBundle eb')
  /-- The attribute is the same if no id occurs in two rows. -/
  | slots (sort : AttributeSort) {rows rows' : List (AttributeRow sort.Value)} {a a' : Attribute sort.Value} :
      ((rows.map AttributeRow.id).Nodup → a = a') →
      Reordered sort.schema (sort.rows rows) (sort.rows rows') (sort.entity a) (sort.entity a')

/-- Rows of vertices make vertex sets. -/
theorem Entity.Reordered.ids {rows rows' : List VertexRow} {x x' : Entity} (h : Reordered .vertex rows rows' x x') :
    ∃ vs vs', x = .vertexSet vs ∧ x' = .vertexSet vs' ∧ vs.ids.toList = rows.map VertexRow.id ∧
      vs'.ids.toList = rows'.map VertexRow.id := by
  -- the schema has to be a variable, since that of an attribute is computed
  have hall : ∀ {s : Schema} {rows rows' : List s.Row}, Reordered s rows rows' x x' → ∀ hs : s = .vertex, ∃ vs vs',
      x = .vertexSet vs ∧ x' = .vertexSet vs' ∧
        vs.ids.toList = (hs ▸ rows : List (Schema.Row .vertex)).map VertexRow.id ∧
        vs'.ids.toList = (hs ▸ rows' : List (Schema.Row .vertex)).map VertexRow.id := by
    intro s rows rows' h hs
    cases h with
    | vertexSet hids hids' _ => exact ⟨_, _, rfl, rfl, hids, hids'⟩
    | edgeBundle _ => cases hs
    | slots sort _ => cases sort <;> cases hs
  exact hall h rfl

/-- The three sorts of attributes. -/
theorem AttributeSort.builder_perm (sort : AttributeSort) {build : List sort.schema.Row → Except Error Entity}
    {rows rows' : List (AttributeRow sort.Value)} {x : Entity}
    (hb : sort.schema.builder policy g store first second = .ok build)
    (hp : rows.Perm rows') (h : build (sort.rows rows) = .ok x) :
    ∃ x', build (sort.rows rows') = .ok x' ∧ Entity.Reordered sort.schema (sort.rows rows) (sort.rows rows') x x' := by
  obtain ⟨target, -, hbuild⟩ := AttributeSort.builder_ok hb
  rw [hbuild] at h
  obtain ⟨a, ha, rfl⟩ := exists_of_map_eq_ok h
  obtain ⟨a', ha', hsame⟩ := Attribute.ofRows_perm hp ha
  refine ⟨sort.entity a', ?_, .slots sort hsame⟩
  rw [hbuild, ha']
  rfl

/-- **Rows make an entity in every order or in none.** -/
theorem Schema.builder_perm {s : Schema} {build : List s.Row → Except Error Entity}
    {rows rows' : List s.Row} {x : Entity}
    (hb : s.builder policy g store first second = .ok build) (hp : rows.Perm rows') (h : build rows = .ok x) :
    ∃ x', build rows' = .ok x' ∧ Entity.Reordered s rows rows' x x' := by
  cases s with
  | vertex =>
    cases hb
    obtain ⟨vs, hvs, rfl⟩ := exists_of_map_eq_ok h
    have hvs' := VertexSet.ofRows_perm hp hvs
    obtain ⟨rfl, -⟩ := VertexSet.ofRows_eq_ok.mp hvs
    refine ⟨.vertexSet (.ofIds (rows'.map VertexRow.id).toArray), ?_, .vertexSet rfl rfl (hp.map VertexRow.id)⟩
    simp only [hvs']
    rfl
  | edge =>
    obtain ⟨src, -, hb⟩ := bind_eq_ok.mp hb
    obtain ⟨dst, -, hb⟩ := bind_eq_ok.mp hb
    cases hb
    obtain ⟨eb, heb, rfl⟩ := exists_of_map_eq_ok h
    obtain ⟨eb', heb', hedges⟩ := EdgeBundle.ofRows_perm hp heb
    refine ⟨.edgeBundle eb', ?_, .edgeBundle hedges⟩
    simp only [heb']
    rfl
  | doubleAttribute => exact AttributeSort.builder_perm .double hb hp h
  | stringAttribute => exact AttributeSort.builder_perm .string hb hp h
  | pairAttribute => exact AttributeSort.builder_perm .pair hb hp h

end GraphDisk
