import GraphDisk.Proofs.UnorderedDisk.Complete

/-!
# The external view of an entity

Writing an entity shows it by external ids: every ordered index that the entity uses is looked up in a vertex set
(`Entity.uses`). If all of them are found the rows show the entity (`Entity.Shows`), and otherwise the first one that is
not decides (`Entity.translated_externalRows`). These rows are what is published and what the summary counts. They are
also what the data file holds afterwards, unless the marker has the name of the data file
(`UnorderedDisk.externalize_external_view`).
-/

namespace GraphDisk

/-! ## Defined slots -/

namespace Attribute

variable {α : Type} {a : Attribute α} {i : Nat}

/-- The indices of the defined slots, ascending. -/
def definedIndices (a : Attribute α) : List Nat := (List.range a.size).filter fun i => (a.get? i).isSome

theorem mem_definedIndices : i ∈ a.definedIndices ↔ (a.get? i).isSome := by
  unfold definedIndices
  rw [List.mem_filter, List.mem_range, and_iff_right_iff_imp]
  intro h
  obtain ⟨v, hv⟩ := Option.isSome_iff_exists.mp h
  exact (Array.getElem?_eq_some_iff.mp (get?_eq_some.mp hv)).1

/-- The defined slots are at the defined indices. -/
theorem map_fst_entries (a : Attribute α) : a.entries.map Prod.fst = a.definedIndices := by
  have hentries : (a.entries.map Prod.fst).Pairwise (· < ·) := List.pairwise_map.mpr a.entries_ascending
  have hindices : a.definedIndices.Pairwise (· < ·) := List.pairwise_lt_range.filter _
  have hasymm : ∀ i j : Nat, i ∈ a.entries.map Prod.fst → j ∈ a.definedIndices → i < j → j < i → i = j :=
    fun i j _ _ hij hji => absurd hij (by omega)
  -- two ascending lists with the same members
  refine List.Perm.eq_of_pairwise hasymm hentries hindices ?_
  rw [List.perm_ext_iff_of_nodup (hentries.imp fun h => by omega) (hindices.imp fun h => by omega)]
  intro i
  rw [mem_definedIndices, Option.isSome_iff_exists]
  constructor
  · intro h
    obtain ⟨x, hx, rfl⟩ := List.mem_map.mp h
    exact ⟨x.2, mem_entries.mp hx⟩
  · rintro ⟨v, hv⟩
    exact List.mem_map.mpr ⟨(i, v), mem_entries.mpr hv, rfl⟩

/-- There are as many defined slots as the mask has marks. -/
theorem length_definedIndices (a : Attribute α) : a.definedIndices.length = a.defined.count true := by
  have hslots := List.countP_map (p := fun slot : Slot α => slot.defined) (f := Prod.fst) (l := a.slots.toList.zipIdx)
  rw [List.zipIdx_map_fst] at hslots
  rw [← map_fst_entries, List.length_map]
  unfold entries defined
  rw [← Array.count_toList, Array.toList_map, List.count, List.countP_map, List.length_filterMap_eq_countP]
  refine Eq.trans ?_ (hslots.symm.trans ?_)
  · refine List.countP_congr fun x _ => ?_
    cases hx : x.1.defined <;> simp [hx]
  · refine List.countP_congr fun slot _ => ?_
    cases hx : slot.defined <;> simp [hx]

end Attribute

/-! ## Indices that are used -/

/-- An index is below the length of the vertex set in which it is looked up. -/
def InRange (u : Dependency × Nat) : Prop := u.2 < u.1.vertices.size

/-- What is wrong with an index that is looked up. -/
def rangeFault? (u : Dependency × Nat) : Option Error :=
  if u.2 < u.1.vertices.size then none else some (.indexOutOfRange u.1.guid u.2)

namespace Dependency

variable {d : Dependency} {i : Nat} {e : Error}

theorem externalId_eq_error : d.externalId i = .error e ↔ rangeFault? (d, i) = some e := by
  unfold externalId rangeFault? VertexSet.externalId?
  by_cases h : i < d.vertices.size
  · rw [if_pos h, Array.getElem?_eq_getElem h]
    simp
  · rw [if_neg h, Array.getElem?_eq_none (Nat.le_of_not_lt h)]
    simp

theorem externalId_of_inRange (h : InRange (d, i)) : ∃ id, d.externalId i = .ok id :=
  ⟨d.vertices.ids[i], externalId_eq_ok.mpr (Array.getElem?_eq_getElem h)⟩

end Dependency

theorem rangeFault?_eq_none {u : Dependency × Nat} : rangeFault? u = none ↔ InRange u := by
  unfold rangeFault? InRange
  split <;> simp [*]

theorem rangeFault?_eq_some {u : Dependency × Nat} {e : Error} :
    rangeFault? u = some e ↔ ¬ InRange u ∧ e = .indexOutOfRange u.1.guid u.2 := by
  unfold rangeFault? InRange
  split <;> simp [*, eq_comm]

/-- The first fault among indices is that of the first index that is out of range. -/
theorem findSome?_rangeFault? {uses : List (Dependency × Nat)} {e : Error} : uses.findSome? rangeFault? = some e ↔
    ∃ before u behind, uses = before ++ u :: behind ∧ (∀ w ∈ before, InRange w) ∧ ¬ InRange u ∧
      e = .indexOutOfRange u.1.guid u.2 := by
  rw [List.findSome?_eq_some_iff]
  constructor
  · rintro ⟨before, u, behind, rfl, hu, hbefore⟩
    exact ⟨before, u, behind, rfl, fun w hw => rangeFault?_eq_none.mp (hbefore w hw), rangeFault?_eq_some.mp hu⟩
  · rintro ⟨before, u, behind, rfl, hbefore, hu⟩
    exact ⟨before, u, behind, rfl, rangeFault?_eq_some.mpr hu, fun w hw => rangeFault?_eq_none.mpr (hbefore w hw)⟩

theorem findSome?_rangeFault?_eq_none {uses : List (Dependency × Nat)} :
    uses.findSome? rangeFault? = none ↔ ∀ u ∈ uses, InRange u := by
  rw [List.findSome?_eq_none_iff]
  exact forall₂_congr fun u _ => rangeFault?_eq_none

/-! ## Rows of edges and of attributes -/

/-- **What comes of looking indices up**: something that has been done, if all indices are in range, and otherwise the
fault of the first one that is not. -/
def Translated {β : Type} (indices : List (Dependency × Nat)) (Done : β → Prop) : Except Error β → Prop
  | .ok b => (∀ u ∈ indices, InRange u) ∧ Done b
  | .error e => ∃ before u behind, indices = before ++ u :: behind ∧ (∀ w ∈ before, InRange w) ∧ ¬ InRange u ∧
      e = .indexOutOfRange u.1.guid u.2

theorem Translated.map {β γ : Type} {indices : List (Dependency × Nat)} {Done : β → Prop} {Done' : γ → Prop}
    {outcome : Except Error β} {f : β → γ} (h : Translated indices Done outcome) (hf : ∀ b, Done b → Done' (f b)) :
    Translated indices Done' (outcome.map f) := by
  cases outcome with
  | error e => exact h
  | ok b => exact ⟨h.1, hf b h.2⟩

theorem translated_mapM {α β : Type} {f : α → Except Error β} {Row : α → β → Prop}
    {indices : α → List (Dependency × Nat)}
    {as : List α} (hok : ∀ a b, f a = .ok b → Row a b)
    (herror : ∀ a e, f a = .error e ↔ (indices a).findSome? rangeFault? = some e) :
    Translated (as.flatMap indices) (List.Forall₂ Row as) (as.mapM f) := by
  cases h : as.mapM f with
  | error e => exact findSome?_rangeFault?.mp ((mapM_eq_error_iff_findSome? herror).mp h)
  | ok rows =>
    refine ⟨findSome?_rangeFault?_eq_none.mp ?_, (mapM_eq_ok.mp h).imp hok⟩
    cases hfault : (as.flatMap indices).findSome? rangeFault? with
    | none => rfl
    | some e =>
      rw [(mapM_eq_error_iff_findSome? herror).mpr hfault] at h
      cases h

/-- A row shows an edge. -/
structure Edge.Shows (src dst : Dependency) (e : Edge) (r : EdgeRow) : Prop where
  id : r.id = e.id
  source : src.vertices.externalId? e.src = some r.src
  destination : dst.vertices.externalId? e.dst = some r.dst

/-- The indices that an edge uses, its source before its destination. -/
def Edge.uses (src dst : Dependency) (e : Edge) : List (Dependency × Nat) := [(src, e.src), (dst, e.dst)]

theorem EdgeBundle.translated_externalRows (eb : EdgeBundle) (src dst : Dependency) :
    Translated (eb.edges.toList.flatMap (Edge.uses src dst)) (List.Forall₂ (Edge.Shows src dst) eb.edges.toList)
      (eb.externalRows src dst) := by
  refine translated_mapM (fun e r h => ?_) fun e error => ?_
  · obtain ⟨s, hs, h⟩ := bind_eq_ok.mp h
    obtain ⟨t, ht, h⟩ := bind_eq_ok.mp h
    cases h
    exact ⟨rfl, Dependency.externalId_eq_ok.mp hs, Dependency.externalId_eq_ok.mp ht⟩
  · rw [Edge.uses, List.findSome?_cons, List.findSome?_singleton]
    cases hs : rangeFault? (src, e.src) with
    | some e' =>
      rw [Dependency.externalId_eq_error.mpr hs]
      simp [bind, Except.bind]
    | none =>
      obtain ⟨s, hok⟩ := Dependency.externalId_of_inRange (rangeFault?_eq_none.mp hs)
      rw [hok, ← Dependency.externalId_eq_error]
      cases dst.externalId e.dst <;> simp [bind, Except.bind, pure, Except.pure]

/-- A row shows a defined slot of an attribute. -/
structure Attribute.ShowsSlot {α : Type} (a : Attribute α) (src : Dependency) (i : Nat) (r : AttributeRow α) :
    Prop where
  id : src.vertices.externalId? i = some r.id
  value : a.get? i = some r.value

theorem Attribute.translated_externalRows {α : Type} (a : Attribute α) (src : Dependency) :
    Translated (a.definedIndices.map (src, ·)) (List.Forall₂ (a.ShowsSlot src) a.definedIndices)
      (a.externalRows src) := by
  have hentries : Translated (a.entries.flatMap fun x => [(src, x.1)])
      (List.Forall₂ (fun x r => src.vertices.externalId? x.1 = some r.id ∧ x.2 = r.value) a.entries)
        (a.externalRows src) := by
    refine translated_mapM (fun x r h => ?_) fun x error => ?_
    · obtain ⟨id, hid, h⟩ := bind_eq_ok.mp h
      cases h
      exact ⟨Dependency.externalId_eq_ok.mp hid, rfl⟩
    · rw [List.findSome?_singleton, ← Dependency.externalId_eq_error]
      cases hid : src.externalId x.1 <;> simp [hid, bind, Except.bind, pure, Except.pure]
  have hindices : (a.entries.flatMap fun x => [(src, x.1)]) = a.definedIndices.map (src, ·) := by
    rw [← a.map_fst_entries, List.map_map, List.map_eq_flatMap]
    rfl
  rw [hindices] at hentries
  cases h : a.externalRows src with
  | error e =>
    rw [h] at hentries
    exact hentries
  | ok rows =>
    rw [h] at hentries
    have hslots : ∀ x ∈ a.entries, a.get? x.1 = some x.2 := fun x hx => mem_entries.mp hx
    refine ⟨hentries.1, ?_⟩
    rw [← a.map_fst_entries, List.forall₂_map_left_iff]
    refine ((List.forall₂_and_left _ _).mpr ⟨hslots, hentries.2⟩).imp fun x r hr => ?_
    exact ⟨hr.2.1, by rw [hr.1, hr.2.2]⟩

/-! ## Rows of an entity -/

namespace Entity

/-- **The vertex sets that an entity needs have been looked up**: both for edges, the first one for attributes. Scalars
have no rows. -/
def Resolved (s : Store) (first second : Option Guid) (src dst : Dependency) : Entity → Prop
  | scalar _ => False
  | vertexSet _ => True
  | edgeBundle _ => s.dependency first = .ok src ∧ s.dependency second = .ok dst
  | doubleAttribute _ | stringAttribute _ | pairAttribute _ => s.dependency first = .ok src

/-- The indices that an entity uses, in the order of its rows, each with the vertex set in which it is looked up. -/
def uses (src dst : Dependency) : Entity → List (Dependency × Nat)
  | edgeBundle eb => eb.edges.toList.flatMap (Edge.uses src dst)
  | doubleAttribute a => a.definedIndices.map (src, ·)
  | stringAttribute a => a.definedIndices.map (src, ·)
  | pairAttribute a => a.definedIndices.map (src, ·)
  | _ => []

/-- **Rows show an entity** by external ids: a row for each index of a vertex set, for each edge, for each defined slot.
-/
inductive Shows (src dst : Dependency) : Entity → RowBlock → Prop
  | vertices {vs : VertexSet} {rows : List VertexRow} :
    List.Forall₂ (fun i r => vs.externalId? i = some r.id) (List.range vs.size) rows →
    Shows src dst (.vertexSet vs) ⟨.vertex, rows⟩
  | edges {eb : EdgeBundle} {rows : List EdgeRow} : List.Forall₂ (Edge.Shows src dst) eb.edges.toList rows →
    Shows src dst (.edgeBundle eb) ⟨.edge, rows⟩
  | slots (sort : AttributeSort) {a : Attribute sort.Value} {rows : List (AttributeRow sort.Value)} :
    List.Forall₂ (a.ShowsSlot src) a.definedIndices rows → Shows src dst (sort.entity a) (sort.block rows)

variable {x : Entity} {s : Store} {first second : Option Guid} {src dst : Dependency} {block : RowBlock}

/-- The rows of an attribute, once its vertex set has been looked up. -/
theorem externalRows_attribute (sort : AttributeSort) {a : Attribute sort.Value} (second : Option Guid)
    (h : s.dependency first = .ok src) :
    (sort.entity a).externalRows s first second = (a.externalRows src).map sort.block := by
  have hrows : ∀ {α : Type} {a : Attribute α} {f : List (AttributeRow α) → RowBlock},
      (do return f (← a.externalRows (← s.dependency first))) = (a.externalRows src).map f := by
    intro α a f
    rw [h]
    simp only [bind, Except.bind]
    cases a.externalRows src <;> rfl
  cases sort with
  | double => exact hrows
  | string => exact hrows
  | pair => exact hrows

theorem externalRows_edges {eb : EdgeBundle} (h₁ : s.dependency first = .ok src) (h₂ : s.dependency second = .ok dst) :
    (Entity.edgeBundle eb).externalRows s first second = (eb.externalRows src dst).map (⟨.edge, ·⟩) := by
  simp only [externalRows, h₁, h₂, bind, Except.bind]
  cases eb.externalRows src dst <;> rfl

/-- A vertex set has a row for each of its indices. -/
theorem forall₂_externalRows (vs : VertexSet) :
    List.Forall₂ (fun i (r : VertexRow) => vs.externalId? i = some r.id) (List.range vs.size) vs.externalRows := by
  rw [List.forall₂_iff_get]
  refine ⟨by simp [VertexSet.externalRows, VertexSet.size], fun i h₁ h₂ => ?_⟩
  have hi : i < vs.ids.size := by simpa [VertexSet.size] using h₁
  simp [VertexSet.externalRows, VertexSet.externalId?, hi]

/-- **The rows of an entity show it**, or an index that it uses is out of range. -/
theorem translated_externalRows (h : x.Resolved s first second src dst) :
    Translated (x.uses src dst) (x.Shows src dst) (x.externalRows s first second) := by
  have hattribute : ∀ (sort : AttributeSort) (a : Attribute sort.Value), s.dependency first = .ok src →
      Translated (a.definedIndices.map (src, ·)) ((sort.entity a).Shows src dst)
        ((sort.entity a).externalRows s first second) := by
    intro sort a hsrc
    rw [externalRows_attribute sort second hsrc]
    exact (a.translated_externalRows src).map fun rows hrows => .slots sort hrows
  cases x with
  | scalar v => exact h.elim
  | vertexSet vs => exact ⟨by simp [uses], .vertices (forall₂_externalRows vs)⟩
  | edgeBundle eb =>
    rw [externalRows_edges h.1 h.2]
    exact (eb.translated_externalRows src dst).map fun rows hrows => .edges hrows
  | doubleAttribute a => exact hattribute .double a h
  | stringAttribute a => exact hattribute .string a h
  | pairAttribute a => exact hattribute .pair a h

/-- An attribute has a row for each mark of its mask. -/
theorem Shows.length_of_attribute {sort : AttributeSort} {a : Attribute sort.Value}
    (h : (sort.entity a).Shows src dst block) :
    block.rows.length = a.defined.count true := by
  generalize hx : sort.entity a = x at h
  cases h with
  | vertices => cases sort <;> cases hx
  | edges => cases sort <;> cases hx
  | slots sort' hrows =>
    cases sort <;> cases sort' <;> cases hx <;>
      exact hrows.length_eq.symm.trans (Attribute.length_definedIndices _)

theorem Shows.kind_eq (h : x.Shows src dst block) : block.schema.kind = x.kind := by
  cases h with
  | vertices => rfl
  | edges => rfl
  | slots sort => cases sort <;> rfl

end Entity

/-! ## On disk -/

theorem Guid.entryName_of_valid {g : Guid} (h : g.fault? = none) : g.entryName = .ok g.text := by
  unfold Guid.entryName
  rw [h]

/-- The rows of a table are those that were written. -/
theorem Table.rows_holding (s : Schema) (rows : List s.Row) :
    (holding s rows).rows = rows.map (Schema.Row.values s) := by
  unfold Table.rows holding
  rw [List.flatMap_singleton, rows_columnsOf]

/-- What is at the place of the data file of a shard directory that has been written. -/
theorem find?_shardFiles (marker : String) (t : Table) : (shardFiles marker t).find? (partFileName 0) =
    some (.file (if marker = partFileName 0 then .empty else .table t)) := by
  by_cases hm : marker = partFileName 0
  · rw [hm, shardFiles_clash, if_pos rfl]
    rfl
  · rw [find?_shardFiles_part hm, if_neg hm]

namespace UnorderedDisk

variable {d : UnorderedDisk} {x : Entity} {g : Guid} {first second : Option Guid} {src dst : Dependency} {e : Error}

/-- An entity that has no rows is not written. -/
theorem externalizeAs_of_fault (refused : Refusals) (name : String) (hg : g.fault? = none)
    (hx : d.store.get? g = some x)
    (h : x.externalRows d.store first second = .error e) :
    d.externalizeAs refused name g first second = (d, .error e) := by
  unfold externalizeAs publication
  rw [Guid.entryName_of_valid hg]
  simp only [bind, Except.bind, hx, h]

/-- **What is on disk is the external view of the entity.** The translation fails iff an index that is used is out of
range, and then the first one decides and nothing is written. Otherwise the rows that are published show the entity, for
an attribute one for each mark of its mask, and the summary counts them. The data file then holds these rows, unless the
marker has its name and has taken its place. -/
theorem externalize_external_view (refused : Refusals) (name : String) (hx : d.store.get? g = some x)
    (hr : x.Resolved d.store first second src dst) :
    ((∃ e, x.externalRows d.store first second = .error e) ↔ ∃ u ∈ x.uses src dst, ¬ InRange u) ∧
    (∀ before u behind, x.uses src dst = before ++ u :: behind → (∀ w ∈ before, InRange w) → ¬ InRange u →
      x.externalRows d.store first second = .error (.indexOutOfRange u.1.guid u.2) ∧
      (g.fault? = none → d.externalizeAs refused name g first second = (d, .error (.indexOutOfRange u.1.guid u.2)))) ∧
    ((∀ u ∈ x.uses src dst, InRange u) → ∃ block table,
      x.externalRows d.store first second = .ok block ∧ x.Shows src dst block ∧
      (∀ sort a, x = AttributeSort.entity sort a → block.rows.length = a.defined.count true) ∧
      Table.ofRows block.schema block.rows = .ok table ∧ table.rows = block.rows.map (Schema.Row.values block.schema) ∧
      table.rowCount = block.rows.length ∧
      (g.fault? = none → d.publication name g first second =
        .ok (⟨d.config.root, g.text, name, table, d.config.marker⟩, block.schema, block.rows.length)) ∧
      ∀ after summary, d.config.fault? = none → d.FreeName g name →
        d.externalizeAs refused name g first second = (after, .ok summary) →
        summary = ⟨g, x.kind, block.rows.length, 1, d.place g⟩ ∧
        ∃ entries, after.files.list (d.place g) = .ok entries ∧ entries.find? (partFileName 0) =
          some (.file (if d.config.marker = partFileName 0 then .empty else .table table))) := by
  have htranslated := Entity.translated_externalRows hr
  cases hrows : x.externalRows d.store first second with
  | error e =>
    rw [hrows] at htranslated
    have hfault : (x.uses src dst).findSome? rangeFault? = some e := findSome?_rangeFault?.mpr htranslated
    obtain ⟨before, u, behind, huses, -, hu, -⟩ := htranslated
    have hmem : u ∈ x.uses src dst := by
      rw [huses]
      exact List.mem_append_right _ List.mem_cons_self
    refine ⟨iff_of_true ⟨e, rfl⟩ ⟨u, hmem, hu⟩, ?_, fun hall => absurd (hall u hmem) hu⟩
    intro before' u' behind' hsplit hbefore' hu'
    have hfirst := findSome?_rangeFault?.mpr ⟨before', u', behind', hsplit, hbefore', hu', rfl⟩
    rw [hfault] at hfirst
    cases hfirst
    exact ⟨rfl, fun hg => externalizeAs_of_fault refused name hg hx hrows⟩
  | ok block =>
    rw [hrows] at htranslated
    obtain ⟨hrange, hshows⟩ := htranslated
    refine ⟨iff_of_false (by simp) ?_, ?_, fun _ => ⟨block, Table.holding block.schema block.rows, rfl, hshows, ?_,
      Table.ofRows_eq _ _, Table.rows_holding _ _, rfl,
      fun hg => publication_of_rows name (Guid.entryName_of_valid hg) hx hrows, ?_⟩⟩
    · rintro ⟨u, hmem, hu⟩
      exact hu (hrange u hmem)
    · intro before u behind hsplit _ hu
      exact absurd (hrange u (by rw [hsplit]; exact List.mem_append_right _ List.mem_cons_self)) hu
    · rintro sort a rfl
      exact hshows.length_of_attribute
    · intro after summary hc hf hw
      obtain ⟨y, written, hy, hwritten, hafter, rfl, hholds⟩ := holds_of_externalize hc hf hw
      rw [hx] at hy
      cases hy
      rw [hrows] at hwritten
      cases hwritten
      have hconfig : after.config = d.config := by rw [hafter]
      have hlisted := hholds.listed
      rw [place, hconfig] at hlisted
      exact ⟨by rw [hshows.kind_eq], _, hlisted, find?_shardFiles _ _⟩

/-- Two vertices. -/
def twoVertices : Dependency := ⟨⟨"v"⟩, .ofIds #[7, 8]⟩

/-- Three slots, the second of which is defined. -/
def threeSlots : Attribute String := ⟨#[⟨"x", false⟩, ⟨"y", true⟩, ⟨"z", false⟩]⟩

/-- Two edges, the second of which leads away from two vertices. -/
def twoEdges : EdgeBundle := ⟨#[⟨1, 0, 1⟩, ⟨2, 5, 6⟩]⟩

/-- A disk with a vertex set, with an attribute that has a slot beyond its end, and with an edge that leads out of it.
-/
def viewedDisk : UnorderedDisk :=
  new {} (((Store.empty.install ⟨"v"⟩ (.vertexSet twoVertices.vertices)).install ⟨"a"⟩
    (.stringAttribute threeSlots)).install
    ⟨"e"⟩ (.edgeBundle twoEdges))

theorem externalize_viewedDisk :
    (∃ block, Entity.Shows twoVertices twoVertices (.stringAttribute threeSlots) block ∧ block.rows.length = 1) ∧
    viewedDisk.externalize ⟨"e"⟩ (some ⟨"v"⟩) (some ⟨"v"⟩) = (viewedDisk, .error (.indexOutOfRange ⟨"v"⟩ 5)) := by
  have hv : viewedDisk.store.dependency (some ⟨"v"⟩) = .ok twoVertices := rfl
  have ha : viewedDisk.store.get? ⟨"a"⟩ = some (AttributeSort.string.entity threeSlots) := rfl
  have he : viewedDisk.store.get? ⟨"e"⟩ = some (.edgeBundle twoEdges) := rfl
  have hra : (AttributeSort.string.entity threeSlots).Resolved viewedDisk.store
      (some ⟨"v"⟩) none twoVertices twoVertices := hv
  have hre : (Entity.edgeBundle twoEdges).Resolved viewedDisk.store (some ⟨"v"⟩) (some ⟨"v"⟩) twoVertices twoVertices :=
    ⟨hv, hv⟩
  obtain ⟨-, -, hshown⟩ := externalize_external_view .none "s" ha hra
  obtain ⟨-, hfirst, -⟩ := externalize_external_view .none (viewedDisk.freshStagingName ⟨"e"⟩) he hre
  constructor
  · have huses : (AttributeSort.string.entity threeSlots).uses twoVertices twoVertices = [(twoVertices, 1)] := rfl
    obtain ⟨block, table, -, hshows, hlength, -⟩ := hshown (by
      rw [huses]
      exact List.forall_mem_singleton.mpr (by decide : 1 < 2))
    exact ⟨block, hshows, (hlength .string _ rfl).trans (by decide +kernel)⟩
  · have hbefore : ∀ w ∈ [(twoVertices, 0), (twoVertices, 1)], InRange w :=
      List.forall_mem_cons.mpr ⟨(by decide : 0 < 2), List.forall_mem_singleton.mpr (by decide : 1 < 2)⟩
    exact (hfirst _ (twoVertices, 5) [(twoVertices, 6)] rfl hbefore (by decide : ¬ 5 < 2)).2 (by decide +kernel)

/-- **Rows that the summary counts are not in the file** where the marker has its name. -/
theorem counted_rows_without_file : ∃ after entries,
    (vertexDisk "part-00000.parquet").externalize ⟨"v"⟩ none none =
      (after, .ok ⟨⟨"v"⟩, .vertexSet, 1, 1, ⟨"data/unordered/v"⟩⟩) ∧
    after.files.list ⟨"data/unordered/v"⟩ = .ok entries ∧ entries.find? "part-00000.parquet" = some (.file .empty) := by
  obtain ⟨after, hw⟩ := externalize_of_toOption
    (by decide +kernel : ((vertexDisk "part-00000.parquet").externalize ⟨"v"⟩ none none).2.toOption =
      some ⟨⟨"v"⟩, .vertexSet, 1, 1, ⟨"data/unordered/v"⟩⟩)
  obtain ⟨e, block, -, -, hafter, -, hholds⟩ := holds_of_externalize rfl (freeName_freshStagingName _ _) hw
  have hconfig : after.config = (vertexDisk "part-00000.parquet").config := by rw [hafter]
  have hlisted := hholds.listed
  rw [place, hconfig] at hlisted
  exact ⟨after, _, hw, hlisted, find?_shardFiles _ _⟩

end UnorderedDisk

end GraphDisk
