import GraphDisk.Proofs.Condensed
import GraphDisk.Proofs.UnorderedDisk.Attribute
import GraphDisk.Proofs.UnorderedDisk.Builder
import GraphDisk.Proofs.UnorderedDisk.Complete
import GraphDisk.Proofs.UnorderedDisk.Failure

/-!
# From disk to the store and back

An entity that was read can always be written again, unless a file-system call fails
(`UnorderedDisk.externalize_rebuilt`). The rows that are written are then a normal form of those that were read
(`Normalized`): the same rows, or for an attribute one row for each id. The entity that is read from them is the one
that is resident already.
-/

namespace GraphDisk

variable {store : Store} {policy : DuplicatePolicy} {g : Guid} {first second : Option Guid} {x : Entity}

/-- **The rows that are written for rows that were read**: all of them in the same order, or for an attribute one row
for each id. -/
inductive Normalized (store : Store) (first : Option Guid) : (s : Schema) → List s.Row → List s.Row → Prop
  | vertexSet (rows : List VertexRow) : Normalized store first .vertex rows rows
  | edgeBundle (rows : List EdgeRow) : Normalized store first .edge rows rows
  | attribute (sort : AttributeSort) {target : Dependency} {rows kept : List (AttributeRow sort.Value)} :
      store.dependency first = .ok target → (kept.map AttributeRow.id).Nodup →
      Attribute.Condensed target.vertices rows kept →
      Normalized store first sort.schema (sort.rows rows) (sort.rows kept)

/-! ## Rows that make an entity -/

namespace AttributeSort

variable {sort : AttributeSort} {a : Attribute sort.Value} {source : Dependency}

theorem builder_ok {build : List sort.schema.Row → Except Error Entity}
    (h : sort.schema.builder policy g store first second = .ok build) :
    ∃ target, store.dependency first = .ok target ∧
      ∀ rows, build (sort.rows rows) = (Attribute.ofRows sort.zero target rows).map sort.entity := by
  have hrows : ∀ {α : Type} {zero : α} {f : Attribute α → Entity} {build : List (AttributeRow α) → Except Error Entity},
      (do
        let target ← store.dependency first
        return fun rows => (Attribute.ofRows zero target rows).map f) = Except.ok build →
      ∃ target, store.dependency first = .ok target ∧
        ∀ rows, build rows = (Attribute.ofRows zero target rows).map f := by
    intro α zero f build hb
    obtain ⟨target, ht, hb⟩ := bind_eq_ok.mp hb
    cases hb
    exact ⟨target, ht, fun rows => rfl⟩
  cases sort with
  | double => exact hrows h
  | string => exact hrows h
  | pair => exact hrows h

theorem externalRows_of_ok {rows : List (AttributeRow sort.Value)} (hs : store.dependency first = .ok source)
    (h : a.externalRows source = .ok rows) :
    (sort.entity a).externalRows store first second = .ok (sort.block rows) := by
  have hrows : ∀ {α : Type} {a : Attribute α} {rows : List (AttributeRow α)} {f : List (AttributeRow α) → RowBlock},
      a.externalRows source = .ok rows →
      (do return f (← a.externalRows (← store.dependency first))) = Except.ok (f rows) := by
    intro α a rows f ha
    simp only [hs, bind, Except.bind, ha]
    rfl
  cases sort with
  | double => exact hrows h
  | string => exact hrows h
  | pair => exact hrows h

/-- An attribute that was made of rows is written with one row for each id, of which it is made again. -/
theorem normalized_of_builder (sort : AttributeSort) {build : List sort.schema.Row → Except Error Entity}
    (rows : List (AttributeRow sort.Value))
    (hbuild : sort.schema.builder policy g store first second = .ok build) (hx : build (sort.rows rows) = .ok x) :
    ∃ kept, x.externalRows store first second = .ok ⟨sort.schema, kept⟩ ∧
      Normalized store first sort.schema (sort.rows rows) kept ∧ build kept = .ok x := by
  obtain ⟨target, ht, hrows⟩ := builder_ok hbuild
  rw [hrows] at hx
  cases ha : Attribute.ofRows sort.zero target rows with
  | error e =>
    rw [ha] at hx
    cases hx
  | ok a =>
    rw [ha] at hx
    cases hx
    obtain ⟨kept, hkept, hcondensed, hagain⟩ := Attribute.externalRows_ofRows ha
    refine ⟨sort.rows kept, externalRows_of_ok ht hkept, .attribute sort ht hcondensed.nodup hcondensed, ?_⟩
    rw [hrows, hagain]
    rfl

end AttributeSort

/-- **An entity that was made of rows** is written with a normal form of these rows, of which it is made again. -/
theorem Schema.normalized_of_builder {s : Schema} {build : List s.Row → Except Error Entity} (rows : List s.Row)
    (hbuild : s.builder policy g store first second = .ok build) (hx : build rows = .ok x) :
    ∃ kept, x.externalRows store first second = .ok ⟨s, kept⟩ ∧ Normalized store first s rows kept ∧
      build kept = .ok x := by
  cases s with
  | vertex =>
    cases hbuild
    cases hvs : VertexSet.ofRows policy g rows with
    | error e =>
      simp only [hvs] at hx
      cases hx
    | ok vs =>
      refine ⟨rows, ?_, .vertexSet rows, hx⟩
      simp only [hvs] at hx
      cases hx
      rw [Entity.externalRows, VertexSet.externalRows_ofRows hvs]
      rfl
  | edge =>
    obtain ⟨src, hsrc, hbuild⟩ := bind_eq_ok.mp hbuild
    obtain ⟨dst, hdst, hbuild⟩ := bind_eq_ok.mp hbuild
    cases hbuild
    cases heb : EdgeBundle.ofRows src dst rows with
    | error e =>
      simp only [heb] at hx
      cases hx
    | ok eb =>
      refine ⟨rows, ?_, .edgeBundle rows, hx⟩
      simp only [heb] at hx
      cases hx
      simp only [Entity.externalRows, hsrc, hdst, bind, Except.bind, EdgeBundle.externalRows_ofRows heb]
      rfl
  | stringAttribute => exact AttributeSort.normalized_of_builder .string rows hbuild hx
  | doubleAttribute => exact AttributeSort.normalized_of_builder .double rows hbuild hx
  | pairAttribute => exact AttributeSort.normalized_of_builder .pair rows hbuild hx

/-! ## Entities beside what they depend on -/

theorem Store.dependency_install (h : first.getD .unset ≠ g) :
    (store.install g x).dependency first = store.dependency first := by
  simp only [Store.dependency, Store.vertexSet, Store.get?_install, if_neg h.symm]

theorem Entity.externalRows_congr {store' : Store} (h₁ : store'.dependency first = store.dependency first)
    (h₂ : store'.dependency second = store.dependency second) :
    x.externalRows store' first second = x.externalRows store first second := by
  cases x <;> simp only [Entity.externalRows, h₁, h₂]

theorem Schema.builder_congr {store' : Store} (h₁ : store'.dependency first = store.dependency first)
    (h₂ : store'.dependency second = store.dependency second) (s : Schema) :
    s.builder policy g store' first second = s.builder policy g store first second := by
  cases s <;> simp only [Schema.builder, h₁, h₂]

namespace UnorderedDisk

variable {d disk after : UnorderedDisk} {kind : Kind} {m : Machine} {refused : Refusals} {name : String}
  {summary : Summary} {block : RowBlock} {e : Error}

/-- **A resident entity that can be made again of the rows with which it is written.** -/
structure Reproducible (d : UnorderedDisk) (g : Guid) (first second : Option Guid) (x : Entity) (block : RowBlock) :
    Prop where
  named : g.entryName = .ok g.text
  resident : d.store.get? g = some x
  written : x.externalRows d.store first second = .ok block
  made : d.entityOf g first second block.schema block.rows = .ok x

/-- **Reading gives such an entity**, if the entity does not take the place of what it depends on. -/
theorem reproducible_of_internalize (hfirst : first ≠ some g) (hsecond : second ≠ some g)
    (h : d.internalizeOn m g kind first second = (disk, .ok summary)) :
    ∃ x s rows kept shards, s.kind = kind ∧ d.rowsOf m s (d.place g) = .ok (rows, shards) ∧
      Normalized d.store first s rows kept ∧ disk.config = d.config ∧ disk.Reproducible g first second x ⟨s, kept⟩ := by
  obtain ⟨x, hrebuild⟩ := rebuild_of_internalize_ok (congrArg Prod.snd h)
  rw [internalize_of_rebuild_ok hrebuild] at h
  cases h
  obtain ⟨s, build, rows, shards, rfl, hd, hbuild, hrows, hx, rfl⟩ := rebuild_ok hrebuild
  obtain ⟨kept, hkept, hnormal, hagain⟩ := s.normalized_of_builder rows hbuild hx
  have hg : g.entryName = .ok g.text := by
    obtain ⟨name, hname, -⟩ := bind_eq_ok.mp hd
    rw [hname, (Guid.entryName_ok hname).1]
  have hother : ∀ k : Option Guid, k ≠ some g → k.getD .unset ≠ g := by
    rintro (_ | k) hk heq
    · exact (Guid.entryName_ok hg).2.ne_empty (by rw [← heq]; rfl)
    · exact hk (congrArg some heq)
  have h₁ : (d.store.install g x).dependency first = _ := Store.dependency_install (hother first hfirst)
  have h₂ : (d.store.install g x).dependency second = _ := Store.dependency_install (hother second hsecond)
  refine ⟨x, s, rows, kept, shards, rfl, hrows, hnormal, rfl, ?_⟩
  constructor
  · exact hg
  · rw [Store.get?_install, if_pos rfl]
  · rw [Entity.externalRows_congr h₁ h₂, hkept]
  · exact bind_eq_ok.mpr ⟨build, (s.builder_congr h₁ h₂).trans hbuild, hagain⟩

/-- Such an entity can be written, unless a file-system call fails. -/
theorem Reproducible.io_of_error (h : d.Reproducible g first second x block)
    (hw : d.externalizeAs refused name g first second = (after, .error e)) : ∃ fault, e = .io fault := by
  rcases externalizeAs_error hw with ⟨-, hp⟩ | ⟨-, -, -, -, fault, -, -, -, rfl⟩
  · rw [publication_of_rows name h.named h.resident h.written] at hp
    cases hp
  · exact ⟨fault, rfl⟩

/-- What has been written then is read as the same entity. -/
theorem Reproducible.internalize_eq (h : d.Reproducible g first second x block) (hs : after.store = d.store)
    (hconfig : after.config = d.config) (hm : d.config.marker ≠ partFileName 0) (hholds : after.Holds g block)
    (he : m.Faithful) :
    after.internalizeOn m g block.schema.kind first second =
      if after.TooLong g then (after, .error (.io .nameTooLong))
      else ({ after with store := after.store.install g x },
        .ok ⟨g, block.schema.kind, block.rows.length, 1, after.place g⟩) := by
  obtain ⟨build, hbuild, hmade⟩ := bind_eq_ok.mp h.made
  have hbuild : after.builder g first second block.schema = .ok build := by
    rw [builder, hs, hconfig]
    exact hbuild
  have hread : after.rebuild m g block.schema.kind first second = _ :=
    hholds.rebuild_eq he (by rw [hconfig]; exact hm)
  rw [hbuild] at hread
  by_cases hlong : after.TooLong g
  · rw [if_pos hlong]
    exact internalize_of_rebuild_error (hread.trans (if_pos hlong))
  · rw [if_neg hlong]
    refine internalize_of_rebuild_ok (hread.trans ((if_neg hlong).trans ?_))
    rw [hmade]
    rfl

/-- **An entity that was read can be written again**, and then be read once more. Writing fails only if a file-system
call fails. What it writes is a normal form of the rows that were read, and what is read from it is the entity that is
resident already, unless the path of the data file has become too long by the final name. -/
theorem externalize_rebuilt (hc : d.config.fault? = none)
    (hm : d.config.marker ≠ partFileName 0) (hfirst : first ≠ some g)
    (hsecond : second ≠ some g)
    (hread : d.internalizeOn m g kind first second = (disk, .ok summary)) (refused : Refusals) :
    (∀ name after e, disk.externalizeAs refused name g first second = (after, .error e) → ∃ fault, e = .io fault) ∧
    ∀ name after written, disk.FreeName g name →
      disk.externalizeAs refused name g first second = (after, .ok written) →
      ∃ x s rows kept shards, disk.store.get? g = some x ∧ s.kind = kind ∧
        d.rowsOf m s (d.place g) = .ok (rows, shards) ∧ Normalized d.store first s rows kept ∧
        after.Holds g ⟨s, kept⟩ ∧ written = ⟨g, kind, kept.length, 1, disk.place g⟩ ∧
        ∀ m' : Machine, m'.Faithful → after.internalizeOn m' g kind first second =
          if after.TooLong g then (after, .error (.io .nameTooLong))
          else ({ after with store := after.store.install g x }, .ok ⟨g, kind, kept.length, 1, after.place g⟩) := by
  obtain ⟨x, s, rows, kept, shards, rfl, hrows, hnormal, hconfig, hx⟩ :=
    reproducible_of_internalize hfirst hsecond hread
  refine ⟨fun name after e hw => hx.io_of_error hw, fun name after written hf hw => ?_⟩
  obtain ⟨y, block, hy, hblock, hafter, rfl, hholds⟩ := holds_of_externalize (by rw [hconfig]; exact hc) hf hw
  rw [hx.resident] at hy
  cases hy
  rw [hx.written] at hblock
  cases hblock
  refine ⟨x, s, rows, kept, shards, hx.resident, rfl, hrows, hnormal, hholds, rfl, fun m' he => ?_⟩
  exact hx.internalize_eq (by rw [hafter]) (by rw [hafter]) (by rw [hconfig]; exact hm) hholds he

/-- A disk with a vertex set in which an id occurs twice, and with a shard directory that has two rows for that id. -/
def repeatedDisk : UnorderedDisk where
  config := { root := ⟨"d"⟩ }
  store := Store.empty.install ⟨"v"⟩ (.vertexSet (.ofIds #[7, 8, 7]))
  files := { top := [("d", .directory [("a", .directory [("rows",
    .file (.table (Table.holding .doubleAttribute [⟨7, ⟨1⟩⟩, ⟨8, ⟨2⟩⟩, ⟨7, ⟨3⟩⟩])))])])] }

/-- The attribute of the rows, whose first slot is not defined. -/
def repeatedAttribute : Attribute Double := ⟨#[⟨Double.zero, false⟩, ⟨⟨2⟩, true⟩, ⟨⟨3⟩, true⟩]⟩

theorem internalize_repeatedDisk : repeatedDisk.internalize ⟨"a"⟩ .doubleAttribute (some ⟨"v"⟩) none =
    ({ repeatedDisk with store := repeatedDisk.store.install ⟨"a"⟩ (.doubleAttribute repeatedAttribute) },
      .ok ⟨⟨"a"⟩, .doubleAttribute, 3, 1, ⟨"d/a"⟩⟩) := by
  have hseven : (VertexSet.ofIds #[7, 8, 7]).orderedIndex? 7 = some 2 := by
    refine VertexSet.orderedIndex?_eq_some.mpr ⟨rfl, fun k hk hid => ?_⟩
    have hlt : k < 3 := VertexSet.lt_size_of_externalId? hid
    omega
  have height : (VertexSet.ofIds #[7, 8, 7]).orderedIndex? 8 = some 1 := by
    refine VertexSet.orderedIndex?_eq_some.mpr ⟨rfl, fun k hk hid => ?_⟩
    have hlt : k < 3 := VertexSet.lt_size_of_externalId? hid
    obtain rfl : k = 2 := by omega
    cases hid
  have hattribute : Attribute.ofRows Double.zero ⟨⟨"v"⟩, .ofIds #[7, 8, 7]⟩ [⟨7, ⟨1⟩⟩, ⟨8, ⟨2⟩⟩, ⟨7, ⟨3⟩⟩] =
      .ok repeatedAttribute := by
    simp only [Attribute.ofRows, Dependency.orderedIndex, List.mapM_cons, List.mapM_nil, hseven, height]
    rfl
  have hrows : repeatedDisk.rowsOf {} .doubleAttribute ⟨"d/a"⟩ = .ok ([⟨7, ⟨1⟩⟩, ⟨8, ⟨2⟩⟩, ⟨7, ⟨3⟩⟩], 1) :=
    eq_ok_of_toOption (by decide +kernel)
  have hdirectory : repeatedDisk.shardDirectory ⟨"a"⟩ = .ok ⟨"d/a"⟩ := eq_ok_of_toOption (by decide +kernel)
  apply internalize_of_rebuild_ok
  refine (rebuild_eq hdirectory .doubleAttribute).trans ?_
  rw [hrows]
  show Except.map _ (Except.map _ (Attribute.ofRows Double.zero ⟨⟨"v"⟩, .ofIds #[7, 8, 7]⟩ _)) = _
  rw [hattribute]
  rfl

theorem externalize_rebuilt_repeated : ∃ disk after x,
    repeatedDisk.internalize ⟨"a"⟩ .doubleAttribute (some ⟨"v"⟩) none =
      (disk, .ok ⟨⟨"a"⟩, .doubleAttribute, 3, 1, ⟨"d/a"⟩⟩) ∧
    disk.store.get? ⟨"a"⟩ = some x ∧
    disk.externalize ⟨"a"⟩ (some ⟨"v"⟩) none = (after, .ok ⟨⟨"a"⟩, .doubleAttribute, 2, 1, ⟨"d/a"⟩⟩) ∧
    after.internalize ⟨"a"⟩ .doubleAttribute (some ⟨"v"⟩) none =
      ({ after with store := after.store.install ⟨"a"⟩ x },
        .ok ⟨⟨"a"⟩, .doubleAttribute, 2, 1, after.place ⟨"a"⟩⟩) := by
  have hread := internalize_repeatedDisk
  generalize hdisk : UnorderedDisk.mk _ _ _ = disk at hread
  obtain ⟨after, hafter⟩ : ∃ after, disk.externalize ⟨"a"⟩ (some ⟨"v"⟩) none =
      (after, .ok ⟨⟨"a"⟩, .doubleAttribute, 2, 1, ⟨"d/a"⟩⟩) := by
    rw [← hdisk]
    exact externalize_of_toOption (by decide +kernel)
  obtain ⟨x, s, rows, kept, shards, hx, hs, -, -, -, hwritten, hagain⟩ :=
    (externalize_rebuilt rfl (by decide +kernel) (by decide) (by decide) hread .none).2 _ _ _
      (freeName_freshStagingName _ _) hafter
  have hlength : kept.length = 2 := congrArg Summary.rows hwritten.symm
  have hshort : ¬ after.TooLong ⟨"a"⟩ := by
    obtain ⟨-, -, -, -, -, h, -⟩ := externalizeAs_ok hafter
    have hconfig : after.config = repeatedDisk.config := by rw [h, ← hdisk]
    rw [TooLong, dataFile, place, hconfig]
    decide +kernel
  have hagain := hagain {} Machine.reliable_default.toFaithful
  rw [if_neg hshort, hlength] at hagain
  exact ⟨disk, after, x, hread, hx, hafter, hagain⟩

/-- A directory without files is read as a vertex set without vertices. -/
theorem internalize_of_empty (hg : g.entryName = .ok g.text) (hl : d.files.list (d.place g) = .ok [])
    (hm : d.config.requireMarker = false) : d.internalize g .vertexSet first second =
      ({ d with store := d.store.install g (.vertexSet (.ofIds #[])) }, .ok ⟨g, .vertexSet, 0, 0, d.place g⟩) := by
  have hdirectory : d.shardDirectory g = .ok (d.place g) := by
    unfold shardDirectory
    rw [hg]
    rfl
  have hlisting : Listing.ofEntries (d.place g) d.config.marker d.config.ordering [] = ⟨d.place g, [], false⟩ := by
    cases horder : d.config.ordering <;> simp [Listing.ofEntries]
  have hrows : d.rowsOf {} .vertex (d.place g) = .ok ([], 0) := by
    unfold rowsOf listing
    rw [Machine.reliable_default.list, hl]
    simp only [Except.map, id, hlisting, hm]
    rfl
  apply internalize_of_rebuild_ok
  refine (rebuild_eq hdirectory .vertex).trans ?_
  rw [hrows]
  simp only [builder, Schema.builder, bind, Except.bind, VertexSet.ofRows_nil]
  rfl

/-- A disk with an empty directory at the place of a long guid. -/
def longDirectoryDisk : UnorderedDisk where
  config := { root := padded 3829 }
  store := .empty
  files := { top := [(longGuid.text, .directory [])] }

/-- **What was read from a directory with a long guid can be written, but then not be read any more.** -/
theorem rebuilt_with_long_guid : ∃ disk after written,
    longDirectoryDisk.internalize longGuid .vertexSet none none =
      (disk, .ok ⟨longGuid, .vertexSet, 0, 0, longDirectoryDisk.place longGuid⟩) ∧
    disk.externalize longGuid none none = (after, .ok written) ∧
    after.internalize longGuid .vertexSet none none = (after, .error (.io .nameTooLong)) := by
  have hname := (Guid.entryName_ok entryName_longGuid).2
  have hnode : longDirectoryDisk.files.node? [longGuid.text] = some (.directory []) := by
    simp [longDirectoryDisk, FileSystem.node?, Directory.node?, Directory.find?]
  have honly : OnlyLong longDirectoryDisk.files := by
    refine ⟨rfl, ?_, fun y hy => ?_⟩
    · simp [longDirectoryDisk, FileSystem.namesAt, FileSystem.entriesAt, FileSystem.node?, Directory.node?]
    · rw [hnode] at hy
      exact ⟨[], (Option.some.inj hy).symm⟩
  have hfits := fits_longGuid (Table.holding .vertex [])
  have hlist : longDirectoryDisk.files.list (longDirectoryDisk.place longGuid) = .ok [] :=
    FileSystem.list_entry hname (r := []) ⟨hfits.target, opens_padded 3829 honly.working, hfits.name_short⟩ hnode
  have hread : longDirectoryDisk.internalize longGuid .vertexSet none none = _ :=
    internalize_of_empty entryName_longGuid hlist rfl
  generalize hdisk : UnorderedDisk.mk _ _ _ = disk at hread
  have hconfig : disk.config = longDirectoryDisk.config := by rw [← hdisk]
  have hx : disk.store.get? longGuid = some (.vertexSet (.ofIds #[])) := by
    rw [← hdisk, Store.get?_install, if_pos rfl]
  have hrows : (Entity.vertexSet (.ofIds #[])).externalRows disk.store none none = .ok ⟨.vertex, []⟩ := rfl
  obtain ⟨after, written, hw, hafter, hholds, hlong⟩ := externalize_onlyLong (by rw [hconfig]; rfl)
    (by rw [← hdisk]; exact honly) (by rw [hconfig]; rfl) (by rw [hconfig]; rfl) hx hrows
  have hmarker : after.config.marker ≠ partFileName 0 := by
    rw [hafter, hconfig]
    decide +kernel
  have hagain : after.rebuild {} longGuid .vertexSet none none = .error (.io .nameTooLong) := by
    refine (hholds.rebuild_eq Machine.reliable_default.toFaithful hmarker).trans ?_
    simp only [if_pos hlong]
    rfl
  exact ⟨disk, after, written, hread, hw, internalize_of_rebuild_error hagain⟩

end UnorderedDisk

end GraphDisk
