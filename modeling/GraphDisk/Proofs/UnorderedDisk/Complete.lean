import GraphDisk.Proofs.Condensed
import GraphDisk.Proofs.UnorderedDisk.Attribute
import GraphDisk.Proofs.UnorderedDisk.EdgeBundle

/-!
# What has been written can be read

A shard directory is complete if it has its marker and one data file that holds the rows of the entity
(`UnorderedDisk.Complete`). Writing leaves a complete directory, except in two cases (`complete_of_externalize`): the
path of the data file has become too long by the final name, which reading reports, or the marker has the name of the
data file. Nothing forbids such a marker. It takes the place of the rows when it is written, and reading then gives an
entity without rows.
-/

namespace GraphDisk

variable {e : Entity} {s : Store} {first second : Option Guid} {block : RowBlock}

theorem Entity.kind_of_externalRows (h : e.externalRows s first second = .ok block) : block.schema.kind = e.kind := by
  cases e with
  | scalar v => cases h
  | vertexSet vs =>
    cases h
    rfl
  | edgeBundle eb =>
    obtain ⟨src, dst, rows, -, -, -, rfl⟩ := UnorderedDisk.externalRows_edgeBundle h
    rfl
  | doubleAttribute a =>
    obtain ⟨source, rows, -, -, rfl⟩ := AttributeSort.externalRows_entity .double h
    rfl
  | stringAttribute a =>
    obtain ⟨source, rows, -, -, rfl⟩ := AttributeSort.externalRows_entity .string h
    rfl
  | pairAttribute a =>
    obtain ⟨source, rows, -, -, rfl⟩ := AttributeSort.externalRows_entity .pair h
    rfl

/-! ## Entities without rows -/

theorem VertexSet.ofRows_nil (policy : DuplicatePolicy) (g : Guid) :
    VertexSet.ofRows policy g [] = .ok (VertexSet.ofIds #[]) :=
  VertexSet.ofRows_eq_ok.mpr ⟨rfl, fun _ => List.nodup_nil⟩

theorem Attribute.entries_scatter_nil {α : Type} (zero : α) (n : Nat) : (Attribute.scatter zero n []).entries = [] := by
  rw [List.eq_nil_iff_forall_not_mem]
  rintro ⟨i, v⟩ hm
  have hslot := Attribute.get?_eq_some.mp (Attribute.mem_entries.mp hm)
  simp only [Attribute.scatter, List.foldl_nil, Array.getElem?_replicate] at hslot
  split at hslot
  · cases hslot
  · cases hslot

theorem AttributeSort.externalRows_of_entries_nil {sort : AttributeSort}
    {a : Attribute sort.Value} {source : Dependency}
    (hs : s.dependency first = .ok source) (ha : a.entries = []) :
    (sort.entity a).externalRows s first second = .ok ⟨sort.schema, []⟩ := by
  have hrows : ∀ {α : Type} {a : Attribute α} {f : List (AttributeRow α) → RowBlock}, a.entries = [] →
      (do return f (← a.externalRows (← s.dependency first)) : Except Error RowBlock) = .ok (f []) := by
    intro α a f ha
    have hnone : a.externalRows source = .ok [] := by
      unfold Attribute.externalRows
      rw [ha]
      rfl
    rw [hs]
    simp only [bind, Except.bind, hnone]
    rfl
  cases sort with
  | double => exact hrows ha
  | string => exact hrows ha
  | pair => exact hrows ha

namespace UnorderedDisk

variable {d after : UnorderedDisk} {refused : Refusals} {g : Guid} {name : String} {summary : Summary} {m : Machine}

/-- **A shard directory is complete** for some rows: it has a marker, and one data file, which holds these rows. -/
def Complete (d : UnorderedDisk) (directory : Path) (block : RowBlock) : Prop :=
  ∃ l file shard, Listing.ofPath d.files directory d.config.marker d.config.ordering = .ok l ∧ l.hasMarker = true ∧
    l.paths = [file] ∧ d.files.openShard file = .ok shard ∧ shard.schema = block.schema ∧
    ∀ room, shard.readRows block.schema room = .ok block.rows

theorem Holds.ofPath_eq (h : d.Holds g block) (hm : d.config.marker ≠ partFileName 0) :
    Listing.ofPath d.files (d.place g) d.config.marker d.config.ordering = .ok ⟨d.place g, [partFileName 0], true⟩ := by
  unfold Listing.ofPath
  rw [h.listed]
  simp only [ofEntries_shardFiles hm (List.Perm.refl _)]

theorem Holds.ofPath_clash (h : d.Holds g block) (hm : d.config.marker = partFileName 0) :
    Listing.ofPath d.files (d.place g) d.config.marker d.config.ordering = .ok ⟨d.place g, [], true⟩ := by
  unfold Listing.ofPath
  rw [h.listed, hm]
  simp only [ofEntries_shardFiles_clash (List.Perm.refl _)]

theorem Holds.complete_iff (h : d.Holds g block) :
    d.Complete (d.place g) block ↔ d.config.marker ≠ partFileName 0 ∧ ¬ d.TooLong g := by
  constructor
  · rintro ⟨l, file, shard, hl, -, hpaths, hopen, -, -⟩
    have hm : d.config.marker ≠ partFileName 0 := by
      intro hm
      rw [h.ofPath_clash hm] at hl
      cases hl
      cases hpaths
    refine ⟨hm, fun hlong => ?_⟩
    rw [h.ofPath_eq hm] at hl
    cases hl
    have hfile : d.dataFile g = file := List.singleton_inj.mp hpaths
    have hopened := h.opened hm
    rw [if_pos hlong, hfile, hopen] at hopened
    cases hopened
  · rintro ⟨hm, hlong⟩
    have hopened := h.opened hm
    rw [if_neg hlong] at hopened
    exact ⟨_, d.dataFile g, _, h.ofPath_eq hm, rfl, rfl, hopened, rfl, Shard.readRows_holding _ _⟩

/-! ## A marker with the name of the data file -/

theorem Holds.clash_bind (h : d.Holds g block) (he : m.Faithful)
    (hm : d.config.marker = partFileName 0) (schema : Schema) {β : Type} (k : List schema.Row × Nat → Except Error β) :
    (d.listing m (d.place g) >>= fun l => d.readRows m schema l >>= k) = k ([], 0) := by
  rw [← bind_assoc, h.read_clash he hm]
  rfl

theorem Holds.rebuild_attribute_clash {held : RowBlock} (h : d.Holds g held) (sort : AttributeSort)
    {a : Attribute sort.Value} (he : m.Faithful) (hm : d.config.marker = partFileName 0)
    (hb : (sort.entity a).externalRows d.store first second = .ok block) : ∃ x,
      d.rebuild m g sort.kind first second = .ok (x, ⟨g, sort.kind, 0, 0, d.place g⟩) ∧
      x.externalRows d.store first second = .ok ⟨block.schema, []⟩ := by
  obtain ⟨target, rows, ht, -, rfl⟩ := AttributeSort.externalRows_entity sort hb
  refine ⟨sort.entity (Attribute.scatter sort.zero target.vertices.size []), ?_, ?_⟩
  · have hempty : sort.ofRows target [] = .ok (sort.entity (Attribute.scatter sort.zero target.vertices.size [])) := by
      cases sort <;> rfl
    rw [UnorderedDisk.rebuild_attribute h.shardDirectory_eq ht, h.clash_bind he hm]
    simp only [hempty, List.length_nil]
    rfl
  · exact AttributeSort.externalRows_of_entries_nil ht (Attribute.entries_scatter_nil _ _)

/-- **An entity without rows is read** in the place of any entity. -/
theorem Holds.rebuild_clash {held : RowBlock} (h : d.Holds g held) (he : m.Faithful)
    (hm : d.config.marker = partFileName 0) (hb : e.externalRows d.store first second = .ok block) : ∃ x,
      d.rebuild m g e.kind first second = .ok (x, ⟨g, e.kind, 0, 0, d.place g⟩) ∧
      x.externalRows d.store first second = .ok ⟨block.schema, []⟩ := by
  cases e with
  | scalar v => cases hb
  | vertexSet vs =>
    cases hb
    refine ⟨.vertexSet (VertexSet.ofIds #[]), ?_, rfl⟩
    have hread := h.clash_bind he hm .vertex fun x => VertexSet.ofRows d.config.duplicates g x.1 >>= fun vs =>
      .ok (Entity.vertexSet vs, Summary.mk g .vertexSet x.1.length x.2 (d.place g))
    simp only [VertexSet.ofRows_nil] at hread
    unfold rebuild
    rw [h.shardDirectory_eq]
    exact hread
  | edgeBundle eb =>
    obtain ⟨src, dst, rows, h₁, h₂, -, rfl⟩ := externalRows_edgeBundle hb
    refine ⟨.edgeBundle ⟨#[]⟩, ?_, ?_⟩
    · rw [show (Entity.edgeBundle eb).kind = .edgeBundle from rfl,
        UnorderedDisk.rebuild_edgeBundle h.shardDirectory_eq h₁ h₂,
        h.clash_bind he hm]
      rfl
    · unfold Entity.externalRows
      simp only [h₁, h₂]
      rfl
  | doubleAttribute a => exact h.rebuild_attribute_clash .double he hm hb
  | stringAttribute a => exact h.rebuild_attribute_clash .string he hm hb
  | pairAttribute a => exact h.rebuild_attribute_clash .pair he hm hb

/-! ## After writing -/

/-- **When what has been written is complete**: iff the marker does not have the name of the data file and the path of
the data file is not too long. If the marker has that name, no data file is listed and an entity without rows is read,
whatever was written. -/
theorem complete_of_externalize (hc : d.config.fault? = none) (hf : d.FreeName g name)
    (hw : d.externalizeAs refused name g first second = (after, .ok summary)) (he : m.Faithful) :
    ∃ e block, d.store.get? g = some e ∧ e.externalRows d.store first second = .ok block ∧
      summary = ⟨g, e.kind, block.rows.length, 1, d.place g⟩ ∧
      (after.Complete summary.path block ↔ d.config.marker ≠ partFileName 0 ∧ ¬ d.TooLong g) ∧
      (d.config.marker = partFileName 0 →
        Listing.ofPath after.files summary.path d.config.marker d.config.ordering = .ok ⟨summary.path, [], true⟩ ∧
        ∃ x, after.internalizeOn m g e.kind first second =
            ({ after with store := after.store.install g x }, .ok ⟨g, e.kind, 0, 0, summary.path⟩) ∧
          x.externalRows d.store first second = .ok ⟨block.schema, []⟩) := by
  obtain ⟨e, block, hg, hb, hafter, rfl, hholds⟩ := holds_of_externalize hc hf hw
  have hconfig : after.config = d.config := by rw [hafter]
  have hstore : after.store = d.store := by rw [hafter]
  have hplace : after.place g = d.place g := by rw [place, place, hconfig]
  have hlong : after.TooLong g = d.TooLong g := by rw [TooLong, TooLong, dataFile, dataFile, hplace]
  refine ⟨e, block, hg, hb, by rw [Entity.kind_of_externalRows hb], ?_, fun hm => ⟨?_, ?_⟩⟩
  · have hiff := hholds.complete_iff
    rw [hplace, hconfig, hlong] at hiff
    exact hiff
  · have hlisted := hholds.ofPath_clash (by rw [hconfig, hm])
    rw [hplace, hconfig] at hlisted
    exact hlisted
  · have hrows : e.externalRows after.store first second = .ok block := by rw [hstore, hb]
    obtain ⟨x, hx, hrows⟩ := hholds.rebuild_clash he (by rw [hconfig, hm]) hrows
    rw [hplace] at hx
    rw [hstore] at hrows
    exact ⟨x, internalize_of_rebuild_ok hx, hrows⟩

/-- A disk with a vertex set. -/
def vertexDisk (marker : String) : UnorderedDisk :=
  new { marker } (Store.empty.install ⟨"v"⟩ (.vertexSet (.ofIds #[7])))

theorem complete_vertices : ∃ after block,
    (vertexDisk "_SUCCESS").externalize ⟨"v"⟩ none none = (after, .ok ⟨⟨"v"⟩, .vertexSet, 1, 1, ⟨"data/unordered/v"⟩⟩) ∧
    after.Complete ⟨"data/unordered/v"⟩ block ∧ block.rows.length = 1 := by
  obtain ⟨after, hw⟩ := externalize_of_toOption
    (by decide +kernel : ((vertexDisk "_SUCCESS").externalize ⟨"v"⟩ none none).2.toOption =
      some ⟨⟨"v"⟩, .vertexSet, 1, 1, ⟨"data/unordered/v"⟩⟩)
  obtain ⟨e, block, -, -, hsummary, hcomplete, -⟩ :=
    complete_of_externalize rfl (freeName_freshStagingName _ _) hw Machine.reliable_default.toFaithful
  exact ⟨after, block, hw, hcomplete.mpr ⟨by decide +kernel, by decide +kernel⟩, (congrArg Summary.rows hsummary).symm⟩

/-- **Rows that were written are gone** where the marker has the name of the data file. -/
theorem incomplete_with_part_marker : ∃ after,
    (vertexDisk "part-00000.parquet").externalize ⟨"v"⟩ none none =
      (after, .ok ⟨⟨"v"⟩, .vertexSet, 1, 1, ⟨"data/unordered/v"⟩⟩) ∧
    Listing.ofPath after.files ⟨"data/unordered/v"⟩ "part-00000.parquet" .lexicographic =
      .ok ⟨⟨"data/unordered/v"⟩, [], true⟩ ∧
    (after.internalize ⟨"v"⟩ .vertexSet none none).2 = .ok ⟨⟨"v"⟩, .vertexSet, 0, 0, ⟨"data/unordered/v"⟩⟩ := by
  obtain ⟨after, hw⟩ := externalize_of_toOption
    (by decide +kernel : ((vertexDisk "part-00000.parquet").externalize ⟨"v"⟩ none none).2.toOption =
      some ⟨⟨"v"⟩, .vertexSet, 1, 1, ⟨"data/unordered/v"⟩⟩)
  obtain ⟨e, block, he, hb, hafter, -, hholds⟩ := holds_of_externalize rfl (freeName_freshStagingName _ _) hw
  have hvertices : (vertexDisk "part-00000.parquet").store.get? ⟨"v"⟩ = some (.vertexSet (.ofIds #[7])) := rfl
  rw [hvertices] at he
  cases he
  have hconfig : after.config = (vertexDisk "part-00000.parquet").config := by rw [hafter]
  have hstore : after.store = (vertexDisk "part-00000.parquet").store := by rw [hafter]
  have hplace : after.place ⟨"v"⟩ = ⟨"data/unordered/v"⟩ := by
    rw [place, hconfig]
    decide +kernel
  have hm : after.config.marker = partFileName 0 := by
    rw [hconfig]
    decide +kernel
  have hlisted := hholds.ofPath_clash hm
  rw [hplace, hconfig] at hlisted
  obtain ⟨x, hx, -⟩ := hholds.rebuild_clash Machine.reliable_default.toFaithful hm (by rw [hstore, hb])
  rw [hplace] at hx
  exact ⟨after, hw, hlisted, congrArg Prod.snd (internalize_of_rebuild_ok hx)⟩

end UnorderedDisk

end GraphDisk
