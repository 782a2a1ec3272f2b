import GraphDisk.Proofs.Reordered
import GraphDisk.Proofs.UnorderedDisk.FailedRead

/-!
# The order in which a directory is listed

A directory lists its entries in an order of its own. Two machines that differ in nothing else are compared: on both,
threads are done with the row groups of a file in the same order, and the same paths are refused.

If the data files are read in the order of their names, the order of the listing is not seen at all: the listing is the
same (`Listing.ofEntries_perm`), and so is everything that follows, failures included. If they are read as the directory
lists them, whether reading succeeds is the same, with as many rows and files, and the rows come file by file in another
order (`UnorderedDisk.rowsOf_eq_ok`). What that does to the entity is said by `Entity.Reordered`
(`UnorderedDisk.internalize_of_enumerations`).
-/

namespace GraphDisk

/-! ## Listings -/

namespace Listing

variable {directory : Path} {marker : String} {entries entries' : Directory}

/-- **Sorted by name, a listing does not depend on the order of the entries.** -/
theorem ofEntries_perm (hp : entries.Perm entries') :
    ofEntries directory marker .lexicographic entries = ofEntries directory marker .lexicographic entries' := by
  have hnames : (ofEntries directory marker .lexicographic entries).names =
      (ofEntries directory marker .lexicographic entries').names :=
    names_ofEntries directory (names_perm.trans (dataNames_perm hp).symm) names_sorted
  have hmarker : (ofEntries directory marker .lexicographic entries).hasMarker =
      (ofEntries directory marker .lexicographic entries').hasMarker := by
    rw [Bool.eq_iff_iff, hasMarker_iff, hasMarker_iff]
    exact exists_congr fun content => hp.mem_iff
  exact congrArg₂ (Listing.mk directory) hnames hmarker

/-- No two entries have the same name, so the names ascend. -/
theorem names_ascending (hn : (entries.map Prod.fst).Nodup) :
    (ofEntries directory marker .lexicographic entries).names.Pairwise fun a b => Text.bytes a < Text.bytes b := by
  have hdata : (dataNames marker entries).Nodup := ((List.filter_sublist.map Prod.fst).nodup hn).filter _
  refine (names_sorted.and (names_perm.nodup_iff.mpr hdata)).imp fun ⟨hle, hne⟩ => ?_
  by_contra hnot
  exact hne (String.le_antisymm (Text.le_iff_bytes_le.mpr hle) (Text.le_iff_bytes_le.mpr (List.not_lt.mp hnot)))

end Listing

namespace UnorderedDisk

variable {d : UnorderedDisk} {m : Machine} {enumerate enumerate₁ enumerate₂ : Directory → Directory} {g : Guid}
  {kind : Kind} {first second : Option Guid} {s : Schema} {q : Path} {rows : List s.Row} {shards : Nat} {x : Entity}
  {summary : Summary}

/-! ## Rows -/

/-- The rows of a data file, and none if it cannot be read. -/
def contents (m : Machine) (d : UnorderedDisk) (s : Schema) (q : Path) (name : String) : List s.Row :=
  (d.readFile m s (q.entry name)).toOption.getD []

/-- The rows of the data files among some entries, file by file in the order of the entries. -/
def rowsAmong (m : Machine) (d : UnorderedDisk) (s : Schema) (q : Path) (entries : Directory) : List s.Row :=
  (dataNames d.config.marker entries).flatMap (d.contents m s q)

/-- **A shard directory that can be read**: each data file can be, and the marker is there if it is asked for. -/
structure Readable (m : Machine) (d : UnorderedDisk) (s : Schema) (q : Path) (entries : Directory) : Prop where
  granted : m.refused q = none
  listed : d.files.list q = .ok entries
  marked : d.config.requireMarker = true → ∃ content, (d.config.marker, Node.file content) ∈ entries
  readable : ∀ name ∈ dataNames d.config.marker entries, d.readFile m s (q.entry name) = .ok (d.contents m s q name)

theorem contents_eq {name : String} (h : d.readFile m s (q.entry name) = .ok rows) : d.contents m s q name = rows := by
  rw [contents, h]
  rfl

/-- **Files that are read as the directory lists them** give their rows in that order. -/
theorem rowsOf_eq_ok (he : ∀ entries, (enumerate entries).Perm entries) (ho : d.config.ordering = .listing) :
    d.rowsOf { m with enumerate } s q = .ok (rows, shards) ↔ ∃ entries, d.Readable m s q entries ∧
      rows = d.rowsAmong m s q (enumerate entries) ∧ shards = (dataNames d.config.marker entries).length := by
  have hmem : ∀ {entries name},
      name ∈ dataNames d.config.marker (enumerate entries) ↔ name ∈ dataNames d.config.marker entries :=
    fun {entries name} => (dataNames_perm (he entries)).mem_iff
  have hmarker : ∀ {entries},
      (Listing.ofEntries q d.config.marker d.config.ordering (enumerate entries)).hasMarker = true ↔
        ∃ content, (d.config.marker, Node.file content) ∈ entries := fun {entries} => by
    rw [Listing.hasMarker_iff]
    exact exists_congr fun content => (he entries).mem_iff
  have hnames : ∀ entries, (Listing.ofEntries q d.config.marker d.config.ordering (enumerate entries)).names =
      dataNames d.config.marker (enumerate entries) := fun entries => by
    rw [ho]
    rfl
  constructor
  · intro h
    obtain ⟨l, hl, h⟩ := bind_eq_ok.mp h
    obtain ⟨listed, hlisted, rfl, hmarked⟩ := listing_eq_ok.mp hl
    obtain ⟨hgranted, entries, hlist, rfl⟩ := Machine.list_eq_ok.mp hlisted
    obtain ⟨blocks, hblocks, h⟩ := bind_eq_ok.mp h
    cases h
    have hblocks : ((Listing.ofEntries q d.config.marker d.config.ordering (enumerate entries)).names.map q.entry).mapM
        (d.readFile m s) = .ok blocks := hblocks
    rw [hnames, List.mapM_map] at hblocks
    obtain ⟨rfl, hread⟩ := eq_map_of_mapM (g := d.contents m s q) (fun name rows hname => contents_eq hname) hblocks
    refine ⟨entries, ⟨hgranted, hlist, fun hrequired => hmarker.mp (hmarked hrequired),
      fun name hname => hread name (hmem.mpr hname)⟩, ?_, ?_⟩
    · exact List.flatMap_def.symm
    · show (Listing.ofEntries q d.config.marker d.config.ordering (enumerate entries)).names.length = _
      rw [hnames]
      exact (dataNames_perm (he entries)).length_eq
  · rintro ⟨entries, ⟨hgranted, hlist, hmarked, hread⟩, rfl, rfl⟩
    have hlisted := Machine.list_eq_ok (m := { m with enumerate }).mpr ⟨hgranted, entries, hlist, rfl⟩
    have hl := listing_eq_ok.mpr ⟨_, hlisted, rfl, fun hrequired => hmarker.mpr (hmarked hrequired)⟩
    have hblocks : (Listing.ofEntries q d.config.marker d.config.ordering (enumerate entries)).paths.mapM
        (d.readFile m s) = .ok ((dataNames d.config.marker (enumerate entries)).map (d.contents m s q)) := by
      rw [Listing.paths, hnames, List.mapM_map]
      exact mapM_of_ok fun name hname => hread name (hmem.mp hname)
    refine bind_eq_ok.mpr ⟨_, hl, bind_eq_ok.mpr ⟨_, hblocks, ?_⟩⟩
    rw [hnames, (dataNames_perm (he entries)).length_eq, ← List.flatMap_def]
    rfl

theorem rowsAmong_perm {entries entries' : Directory} (hp : entries.Perm entries') :
    (d.rowsAmong m s q entries).Perm (d.rowsAmong m s q entries') := (dataNames_perm hp).flatMap_right _

/-! ## Entities -/

/-- What is read depends on the order only through the listing. -/
theorem rebuild_of_listing (h : ∀ q, d.listing { m with enumerate := enumerate₁ } q =
      d.listing { m with enumerate := enumerate₂ } q) :
    d.rebuild { m with enumerate := enumerate₁ } g kind first second =
      d.rebuild { m with enumerate := enumerate₂ } g kind first second := by
  unfold rebuild
  simp only [h]
  rfl

/-- **In another order, a shard directory that can be read can be read.** -/
theorem rebuild_reordered (he₁ : ∀ entries, (enumerate₁ entries).Perm entries)
    (he₂ : ∀ entries, (enumerate₂ entries).Perm entries) (ho : d.config.ordering = .listing)
    (h : d.rebuild { m with enumerate := enumerate₁ } g kind first second = .ok (x, summary)) :
    ∃ s entries x', s.kind = kind ∧ d.Readable m s (d.place g) entries ∧
      d.rebuild { m with enumerate := enumerate₂ } g kind first second = .ok (x', summary) ∧
      Entity.Reordered s (d.rowsAmong m s (d.place g) (enumerate₁ entries))
        (d.rowsAmong m s (d.place g) (enumerate₂ entries)) x x' := by
  obtain ⟨s, build, rows, shards, rfl, hd, hbuild, hrows, hx, rfl⟩ := rebuild_ok h
  obtain ⟨entries, hreadable, rfl, rfl⟩ := (rowsOf_eq_ok he₁ ho).mp hrows
  have hp := rowsAmong_perm (d := d) (m := m) (s := s) (q := d.place g) ((he₁ entries).trans (he₂ entries).symm)
  obtain ⟨x', hx', hreordered⟩ := Schema.builder_perm hbuild hp hx
  have hrows' := (rowsOf_eq_ok he₂ ho).mpr ⟨entries, hreadable, rfl, rfl⟩
  refine ⟨s, entries, x', rfl, hreadable, ?_, hreordered⟩
  rw [rebuild_eq hd, hbuild]
  simp only [bind, Except.bind, hrows', hx', Except.map, hp.length_eq]

/-- **The order in which a directory is listed matters only as far as it is asked for.** Sorted by name, the data files
are the regular files but the marker, ascending by the bytes of their names, and reading has the same outcome in every
order, be it a failure. If the files are read as they are listed, reading succeeds in one order iff it does in the
other, with the same summary, and what becomes of the entity is what another order of the rows does to it, where the
rows of a file stay together. Everything else about the machine is the same. -/
theorem internalize_of_enumerations (m : Machine) (he₁ : ∀ entries, (enumerate₁ entries).Perm entries)
    (he₂ : ∀ entries, (enumerate₂ entries).Perm entries) (d : UnorderedDisk) (g : Guid) (kind : Kind)
    (first second : Option Guid) :
    (∀ directory marker entries, (entries.map Prod.fst).Nodup → ∃ l,
      Listing.ofEntries directory marker .lexicographic (enumerate₁ entries) = l ∧
      Listing.ofEntries directory marker .lexicographic (enumerate₂ entries) = l ∧
      (∀ name, name ∈ l.names ↔ name ≠ marker ∧ ∃ content, (name, Node.file content) ∈ entries) ∧
      l.names.Pairwise (fun a b => Text.bytes a < Text.bytes b) ∧
      (l.hasMarker = true ↔ ∃ content, (marker, Node.file content) ∈ entries)) ∧
    (d.config.ordering = .lexicographic →
      (∀ directory, d.listing { m with enumerate := enumerate₁ } directory =
        d.listing { m with enumerate := enumerate₂ } directory) ∧
      d.internalizeOn { m with enumerate := enumerate₁ } g kind first second =
        d.internalizeOn { m with enumerate := enumerate₂ } g kind first second) ∧
    (d.config.ordering = .listing →
      (∀ summary, (d.internalizeOn { m with enumerate := enumerate₁ } g kind first second).2 = .ok summary ↔
        (d.internalizeOn { m with enumerate := enumerate₂ } g kind first second).2 = .ok summary) ∧
      ∀ summary, (d.internalizeOn { m with enumerate := enumerate₁ } g kind first second).2 = .ok summary →
        ∃ s entries x₁ x₂, s.kind = kind ∧ d.Readable m s (d.place g) entries ∧
        d.internalizeOn { m with enumerate := enumerate₁ } g kind first second =
          ({ d with store := d.store.install g x₁ }, .ok summary) ∧
        d.internalizeOn { m with enumerate := enumerate₂ } g kind first second =
          ({ d with store := d.store.install g x₂ }, .ok summary) ∧
        Entity.Reordered s (d.rowsAmong m s (d.place g) (enumerate₁ entries))
          (d.rowsAmong m s (d.place g) (enumerate₂ entries)) x₁ x₂) := by
  have hperm : ∀ entries, (enumerate₁ entries).Perm (enumerate₂ entries) :=
    fun entries => (he₁ entries).trans (he₂ entries).symm
  refine ⟨fun directory marker entries hn => ?_, fun ho => ?_,
    fun ho => ⟨fun summary => ⟨fun h => ?_, fun h => ?_⟩, fun summary h => ?_⟩⟩
  · have hlisting : ∀ {enumerate : Directory → Directory}, (enumerate entries).Perm entries →
        Listing.ofEntries directory marker .lexicographic (enumerate entries) =
          Listing.ofEntries directory marker .lexicographic entries := fun hp => Listing.ofEntries_perm hp
    exact ⟨_, hlisting (he₁ entries), hlisting (he₂ entries),
      fun name => Listing.names_perm.mem_iff.trans mem_dataNames, Listing.names_ascending hn, Listing.hasMarker_iff⟩
  · have hlisting : ∀ directory, d.listing { m with enumerate := enumerate₁ } directory =
        d.listing { m with enumerate := enumerate₂ } directory := by
      intro directory
      unfold listing Machine.list
      cases m.refused directory with
      | some fault => rfl
      | none =>
        cases d.files.list directory with
        | error fault => rfl
        | ok entries => simp only [Except.map, ho, Listing.ofEntries_perm (hperm entries)]
    refine ⟨hlisting, ?_⟩
    unfold internalizeOn
    rw [rebuild_of_listing hlisting]
  · obtain ⟨x, hx⟩ := rebuild_of_internalize_ok h
    obtain ⟨-, -, x', -, -, hx', -⟩ := rebuild_reordered he₁ he₂ ho hx
    rw [internalize_of_rebuild_ok hx']
  · obtain ⟨x, hx⟩ := rebuild_of_internalize_ok h
    obtain ⟨-, -, x', -, -, hx', -⟩ := rebuild_reordered he₂ he₁ ho hx
    rw [internalize_of_rebuild_ok hx']
  · obtain ⟨x, hx⟩ := rebuild_of_internalize_ok h
    obtain ⟨s, entries, x', hkind, hreadable, hx', hreordered⟩ := rebuild_reordered he₁ he₂ ho hx
    exact ⟨s, entries, x, x', hkind, hreadable, internalize_of_rebuild_ok hx, internalize_of_rebuild_ok hx', hreordered⟩

/-- A directory with two data files. -/
def twoFiles : Directory := [("a", .file (.table (Table.holding .vertex [⟨7⟩, ⟨8⟩]))),
  ("b", .file (.table (Table.holding .vertex [⟨9⟩]))), ("_SUCCESS", .file .empty)]

/-- A disk that reads the files of that directory as they are listed. -/
def listingDisk : UnorderedDisk :=
  { occupiedDisk (.directory twoFiles) with config := { root := ⟨"d"⟩, ordering := .listing } }

/-- Listed backwards, the files come in the other order, and the rows of each stay together. -/
theorem internalize_listed_backwards : ∃ vs₁ vs₂ : VertexSet,
    listingDisk.internalizeOn {} ⟨"v"⟩ .vertexSet none none =
      ({ listingDisk with store := listingDisk.store.install ⟨"v"⟩ (.vertexSet vs₁) },
        .ok ⟨⟨"v"⟩, .vertexSet, 3, 2, ⟨"d/v"⟩⟩) ∧
    listingDisk.internalizeOn { enumerate := List.reverse } ⟨"v"⟩ .vertexSet none none =
      ({ listingDisk with store := listingDisk.store.install ⟨"v"⟩ (.vertexSet vs₂) },
        .ok ⟨⟨"v"⟩, .vertexSet, 3, 2, ⟨"d/v"⟩⟩) ∧
    vs₁.ids.toList = [7, 8, 9] ∧ vs₂.ids.toList = [9, 7, 8] := by
  have hread : (listingDisk.internalizeOn {} ⟨"v"⟩ .vertexSet none none).2 =
      .ok ⟨⟨"v"⟩, .vertexSet, 3, 2, ⟨"d/v"⟩⟩ := eq_ok_of_toOption (by decide +kernel)
  have hlist : listingDisk.files.list (listingDisk.place ⟨"v"⟩) = .ok twoFiles := rfl
  obtain ⟨-, -, hlisting⟩ := internalize_of_enumerations {} List.Perm.refl (fun entries => List.reverse_perm entries)
    listingDisk ⟨"v"⟩ .vertexSet none none
  obtain ⟨s, entries, x₁, x₂, hkind, hreadable, h₁, h₂, hreordered⟩ := (hlisting rfl).2 _ hread
  obtain rfl : s = .vertex := by cases s <;> first | rfl | cases hkind
  obtain rfl : twoFiles = entries := Except.ok.inj (hlist.symm.trans hreadable.listed)
  obtain ⟨vs₁, vs₂, rfl, rfl, hids₁, hids₂⟩ := hreordered.ids
  refine ⟨vs₁, vs₂, h₁, h₂, hids₁.trans ?_, hids₂.trans ?_⟩
  · decide +kernel
  · decide +kernel

end UnorderedDisk

end GraphDisk
