import GraphDisk.Proofs.Dependency
import GraphDisk.Proofs.Shard.Layout
import GraphDisk.Proofs.Text.ByteOrder
import GraphDisk.Proofs.UnorderedDisk.Builder
import GraphDisk.Proofs.UnorderedDisk.Failure
import GraphDisk.Proofs.UnorderedDisk.Repeated

/-!
# Shard directories in other layouts

The rows of a shard directory may be spread over any number of files, each in a layout of its own
(`UnorderedDisk.LaysOut`). Reading puts them together in the order of the files' names
(`UnorderedDisk.rowsOf_of_laysOut`), so two directories with the same rows in the same order are read alike, whatever
their files look like (`UnorderedDisk.internalize_of_same_rows`).
-/

namespace GraphDisk

/-! ## What can be wrong with rows -/

/-- **What can be wrong with rows**: an id that is missing where it is looked up, or an id that occurs twice. -/
inductive Error.OfRows : Error → Prop
  | invalidReference (vs : Guid) (id : Int64) : OfRows (.invalidReference vs id)
  | duplicateExternalId (g : Guid) (id : Int64) : OfRows (.duplicateExternalId g id)

theorem Dependency.orderedIndex_error {d : Dependency} {id : Int64} {e : Error} (h : d.orderedIndex id = .error e) :
    e.OfRows := by
  obtain ⟨-, rfl⟩ := Dependency.orderedIndex_eq_error.mp h
  exact .invalidReference _ _

theorem VertexSet.ofRows_error {policy : DuplicatePolicy} {g : Guid} {rows : List VertexRow} {e : Error}
    (h : ofRows policy g rows = .error e) : e.OfRows := by
  simp only [ofRows] at h
  split at h
  · cases h
    exact .duplicateExternalId _ _
  · cases h

theorem EdgeBundle.ofRows_error {src dst : Dependency} {rows : List EdgeRow} {e : Error}
    (h : ofRows src dst rows = .error e) : e.OfRows := by
  rcases bind_eq_error.mp h with h | ⟨edges, -, h⟩
  · obtain ⟨-, r, -, -, -, hr⟩ := mapM_eq_error.mp h
    rcases bind_eq_error.mp hr with hr | ⟨i, -, hr⟩
    · exact Dependency.orderedIndex_error hr
    · rcases bind_eq_error.mp hr with hr | ⟨j, -, hr⟩
      · exact Dependency.orderedIndex_error hr
      · cases hr
  · cases h

theorem Attribute.ofRows_error {α : Type} {zero : α} {target : Dependency} {rows : List (AttributeRow α)} {e : Error}
    (h : ofRows zero target rows = .error e) : e.OfRows := by
  rcases bind_eq_error.mp h with h | ⟨writes, -, h⟩
  · obtain ⟨-, r, -, -, -, hr⟩ := mapM_eq_error.mp h
    rcases bind_eq_error.mp hr with hr | ⟨i, -, hr⟩
    · exact Dependency.orderedIndex_error hr
    · cases hr
  · cases h

section Building

variable {policy : DuplicatePolicy} {g : Guid} {store : Store} {first second : Option Guid} {s : Schema} {e : Error}

/-- Before the rows are read, only a vertex set can be missing. -/
theorem Schema.builder_error (h : s.builder policy g store first second = .error e) : e.OfRequest := by
  have hattribute : ∀ {α : Type} {f : Dependency → α},
      (do return f (← store.dependency first)) = Except.error e → e.OfRequest := by
    intro α f hf
    rcases bind_eq_error.mp hf with hf | ⟨target, -, hf⟩
    · exact Store.dependency_error hf
    · cases hf
  cases s with
  | vertex => cases h
  | edge =>
    rcases bind_eq_error.mp h with h | ⟨src, -, h⟩
    · exact Store.dependency_error h
    · rcases bind_eq_error.mp h with h | ⟨dst, -, h⟩
      · exact Store.dependency_error h
      · cases h
  | stringAttribute => exact hattribute h
  | doubleAttribute => exact hattribute h
  | pairAttribute => exact hattribute h

/-- Once the rows are read, only the rows can be wrong. -/
theorem Schema.build_error {build : List s.Row → Except Error Entity} {rows : List s.Row}
    (hb : s.builder policy g store first second = .ok build) (h : build rows = .error e) : e.OfRows := by
  have hattribute : ∀ {α : Type} {zero : α} {f : Attribute α → Entity}
      {build : List (AttributeRow α) → Except Error Entity} {rows : List (AttributeRow α)}, (do
        let target ← store.dependency first
        return fun rows => (Attribute.ofRows zero target rows).map f) = Except.ok build →
      build rows = .error e → e.OfRows := by
    intro α zero f build rows hb h
    obtain ⟨target, -, hb⟩ := bind_eq_ok.mp hb
    cases hb
    exact Attribute.ofRows_error (map_eq_error h)
  cases s with
  | vertex =>
    cases hb
    exact VertexSet.ofRows_error (map_eq_error h)
  | edge =>
    obtain ⟨src, -, hb⟩ := bind_eq_ok.mp hb
    obtain ⟨dst, -, hb⟩ := bind_eq_ok.mp hb
    cases hb
    exact EdgeBundle.ofRows_error (map_eq_error h)
  | stringAttribute => exact hattribute hb h
  | doubleAttribute => exact hattribute hb h
  | pairAttribute => exact hattribute hb h

end Building

/-! ## Directories -/

/-- The names of the data files among the entries of a directory: those of regular files other than the marker. -/
def dataNames (marker : String) (entries : Directory) : List String :=
  ((entries.filter fun e => e.2.isFile).map Prod.fst).filter (· ≠ marker)

theorem dataNames_perm {marker : String} {entries entries' : Directory} (h : entries.Perm entries') :
    (dataNames marker entries).Perm (dataNames marker entries') := ((h.filter _).map _).filter _

theorem mem_fileNames {name : String} {entries : Directory} :
    name ∈ (entries.filter fun e => e.2.isFile).map Prod.fst ↔ ∃ content, (name, Node.file content) ∈ entries := by
  rw [List.mem_map]
  constructor
  · rintro ⟨⟨name, x⟩, hx, rfl⟩
    obtain ⟨hmem, hfile⟩ := List.mem_filter.mp hx
    cases x with
    | file content => exact ⟨content, hmem⟩
    | link target => cases hfile
    | directory entries => cases hfile
  · rintro ⟨content, hmem⟩
    exact ⟨_, List.mem_filter.mpr ⟨hmem, rfl⟩, rfl⟩

theorem mem_dataNames {marker name : String} {entries : Directory} :
    name ∈ dataNames marker entries ↔ name ≠ marker ∧ ∃ content, (name, Node.file content) ∈ entries := by
  rw [dataNames, List.mem_filter, mem_fileNames, decide_eq_true_iff, and_comm]

namespace Listing

variable {directory : Path} {marker name : String} {ordering : ShardOrdering}
  {entries entries' : Directory} {names : List String}

theorem names_perm : (ofEntries directory marker ordering entries).names.Perm (dataNames marker entries) := by
  cases ordering with
  | lexicographic => exact List.mergeSort_perm _ _
  | listing => exact List.Perm.refl _

theorem hasMarker_iff : (ofEntries directory marker ordering entries).hasMarker = true ↔
    ∃ content, (marker, Node.file content) ∈ entries := List.contains_iff_mem.trans mem_fileNames

/-- Names are sorted by their bytes. -/
theorem names_sorted :
    (ofEntries directory marker .lexicographic entries).names.Pairwise fun a b => Text.bytes a ≤ Text.bytes b := by
  refine (List.pairwise_mergeSort (fun a b c => ?_) (fun a b => ?_) _).imp fun h =>
    Text.le_iff_bytes_le.mp (of_decide_eq_true h)
  · simpa using String.le_trans
  · simpa using String.le_total a b

/-- Names that are in order are the data files of a listing. -/
theorem names_ofEntries (directory : Path) (hp : names.Perm (dataNames marker entries))
    (hs : names.Pairwise fun a b => Text.bytes a ≤ Text.bytes b) :
    (ofEntries directory marker .lexicographic entries).names = names := by
  have hantisymm : ∀ a b : String,
      Text.bytes a ≤ Text.bytes b → Text.bytes b ≤ Text.bytes a → a = b := fun a b hab hba =>
    String.le_antisymm (Text.le_iff_bytes_le.mpr hab) (Text.le_iff_bytes_le.mpr hba)
  exact (names_perm.trans hp.symm).eq_of_pairwise (fun a b _ _ => hantisymm a b) names_sorted hs

end Listing

namespace UnorderedDisk

variable {d d₁ d₂ : UnorderedDisk} {m m₁ m₂ : Machine} {g : Guid}
  {first second : Option Guid} {s : Schema} {q q₁ q₂ : Path} {files files₁ files₂ : List (String × List (List s.Row))}
  {rows : List s.Row}

/-- **A shard directory whose data files lay rows out.** The files come in the order of the bytes of their names, each
with the rows of its row groups. If a marker is asked for it is there. -/
structure LaysOut (d : UnorderedDisk) (s : Schema) (q : Path) (files : List (String × List (List s.Row))) : Prop where
  listed : ∃ entries, d.files.list q = .ok entries ∧ (files.map Prod.fst).Perm (dataNames d.config.marker entries) ∧
    (d.config.requireMarker = true → ∃ content, (d.config.marker, Node.file content) ∈ entries)
  ordered : (files.map Prod.fst).Pairwise fun a b => Text.bytes a ≤ Text.bytes b
  readable : ∀ f ∈ files, ∃ t, d.files.find (q.entry f.1) = .ok (.file (.table t)) ∧ t.LaysOut s f.2

/-- The rows of files, one file after the other and one row group after the other. -/
def concatenated (files : List (String × List (List s.Row))) : List s.Row := files.flatMap fun f => f.2.flatten

/-- **A listing is that of the entries of the directory**, with the marker if it is asked for. -/
theorem listing_eq_ok {l : Listing} : d.listing m q = .ok l ↔ ∃ entries, m.list d.files q = .ok entries ∧
    l = .ofEntries q d.config.marker d.config.ordering entries ∧
    (d.config.requireMarker = true → l.hasMarker = true) := by
  unfold listing
  cases m.list d.files q with
  | error fault => simp
  | ok entries =>
    simp only [Except.ok.injEq, exists_eq_left']
    by_cases hmarked : d.config.requireMarker = true →
        (Listing.ofEntries q d.config.marker d.config.ordering entries).hasMarker = true
    · rw [if_neg (by simpa using hmarked)]
      constructor
      · intro h
        cases h
        exact ⟨rfl, hmarked⟩
      · rintro ⟨rfl, -⟩
        rfl
    · rw [if_pos (by simpa using hmarked)]
      constructor
      · intro h
        cases h
      · rintro ⟨rfl, h⟩
        exact absurd h hmarked

/-- A file that lays rows out is read. -/
theorem readFile_of_laysOut {p : Path} {t : Table} {groups : List (List s.Row)} (he : m.Reliable)
    (hf : d.files.find p = .ok (.file (.table t))) (ht : t.LaysOut s groups) :
    d.readFile m s p = .ok groups.flatten := by
  obtain ⟨shard, hshard, -, hread⟩ := ht.read
  have hopen : d.files.openShard p = .ok shard := by
    unfold FileSystem.openShard
    rw [hf]
    simp only [hshard]
  have hrows : shard.readRowsBy d.config.codec (m.order p) s (m.noThreads p) m.room = .ok groups.flatten :=
    (Shard.readRowsBy_eq_ok_of_started (he.fair p) fun _ => he.started p).mpr (hread m.room)
  unfold readFile
  rw [he.openShard, hopen]
  simp only [bind, Except.bind, hrows]
  rfl

/-- The listing of a shard directory has its data files in their order. -/
theorem listing_of_laysOut (h : d.LaysOut s q files) (ho : d.config.ordering = .lexicographic) (he : m.Faithful) :
    ∃ l, d.listing m q = .ok l ∧ l.names = files.map Prod.fst ∧ l.paths = files.map fun f => q.entry f.1 := by
  obtain ⟨entries, hlist, hperm, hmarker⟩ := h.listed
  have hnames := Listing.names_ofEntries q (hperm.trans (dataNames_perm (he.lists entries)).symm) h.ordered
  refine ⟨Listing.ofEntries q d.config.marker .lexicographic (m.enumerate entries), ?_, hnames, ?_⟩
  · have hlisted : m.list d.files q = .ok (m.enumerate entries) := by rw [he.list, hlist]; rfl
    refine listing_eq_ok.mpr ⟨_, hlisted, by rw [ho], fun hrequired => ?_⟩
    obtain ⟨content, hmem⟩ := hmarker hrequired
    exact Listing.hasMarker_iff.mpr ⟨content, (he.lists entries).mem_iff.mpr hmem⟩
  · rw [Listing.paths, hnames, List.map_map]
    rfl

/-- **The rows of a shard directory** are read, whatever its files look like. -/
theorem rowsOf_of_laysOut (h : d.LaysOut s q files) (ho : d.config.ordering = .lexicographic) (he : m.Reliable) :
    d.rowsOf m s q = .ok (concatenated files, files.length) := by
  obtain ⟨l, hlisting, hnames, hpaths⟩ := listing_of_laysOut h ho he.toFaithful
  have hread : (files.map fun f => q.entry f.1).mapM (d.readFile m s) = .ok (files.map fun f => f.2.flatten) := by
    rw [List.mapM_map]
    refine mapM_of_ok fun f hf => ?_
    obtain ⟨t, hfind, ht⟩ := h.readable f hf
    exact readFile_of_laysOut he hfind ht
  unfold rowsOf readRows
  rw [hlisting]
  simp only [bind, Except.bind, hpaths, hread, hnames, List.length_map, ← List.flatMap_def]
  rfl

theorem entityOf_error {e : Error} (h : d.entityOf g first second s rows = .error e) : e.OfRequest ∨ e.OfRows := by
  rcases bind_eq_error.mp h with h | ⟨build, hbuild, h⟩
  · exact Or.inl (Schema.builder_error h)
  · exact Or.inr (Schema.build_error hbuild h)

/-- **A shard directory is seen only through its rows.** -/
theorem internalize_of_laysOut (hq : d.shardDirectory g = .ok q) (h : d.LaysOut s q files)
    (ho : d.config.ordering = .lexicographic) (he : m.Reliable) :
    d.internalizeOn m g s.kind first second = match d.entityOf g first second s (concatenated files) with
      | .error e => (d, .error e)
      | .ok x => ({ d with store := d.store.install g x },
          .ok ⟨g, s.kind, (concatenated files).length, files.length, q⟩) := by
  have hrebuild : d.rebuild m g s.kind first second =
      (d.entityOf g first second s (concatenated files)).map fun x =>
        (x, ⟨g, s.kind, (concatenated files).length, files.length, q⟩) := by
    rw [rebuild_eq hq, entityOf]
    simp only [rowsOf_of_laysOut h ho he]
    cases d.builder g first second s <;> rfl
  cases hmade : d.entityOf g first second s (concatenated files) with
  | error e =>
    rw [hmade] at hrebuild
    exact internalize_of_rebuild_error hrebuild
  | ok x =>
    rw [hmade] at hrebuild
    exact internalize_of_rebuild_ok hrebuild

/-- **Two shard directories with the same rows are read alike.** Either reading fails for the same reason, which has
nothing to do with the files, or it gives the same entity. -/
theorem internalize_of_same_rows (first second : Option Guid) (hq₁ : d₁.shardDirectory g = .ok q₁)
    (hq₂ : d₂.shardDirectory g = .ok q₂)
    (h₁ : d₁.LaysOut s q₁ files₁) (h₂ : d₂.LaysOut s q₂ files₂) (hrows : concatenated files₁ = concatenated files₂)
    (hstore : d₁.store = d₂.store) (hpolicy : d₁.config.duplicates = d₂.config.duplicates)
    (ho₁ : d₁.config.ordering = .lexicographic) (ho₂ : d₂.config.ordering = .lexicographic)
    (he₁ : m₁.Reliable) (he₂ : m₂.Reliable) :
    (d₁.internalizeOn m₁ g s.kind first second).1.store =
      (d₂.internalizeOn m₂ g s.kind first second).1.store ∧
    ((∃ e, (e.OfRequest ∨ e.OfRows) ∧ d₁.entityOf g first second s (concatenated files₁) = .error e ∧
        d₁.internalizeOn m₁ g s.kind first second = (d₁, .error e) ∧
        d₂.internalizeOn m₂ g s.kind first second = (d₂, .error e)) ∨
      ∃ x, d₁.entityOf g first second s (concatenated files₁) = .ok x ∧
        d₁.internalizeOn m₁ g s.kind first second =
          ({ d₁ with store := d₁.store.install g x },
            .ok ⟨g, s.kind, (concatenated files₁).length, files₁.length, q₁⟩) ∧
        d₂.internalizeOn m₂ g s.kind first second =
          ({ d₂ with store := d₂.store.install g x },
            .ok ⟨g, s.kind, (concatenated files₂).length, files₂.length, q₂⟩)) := by
  have hentity : d₂.entityOf g first second s (concatenated files₂) =
      d₁.entityOf g first second s (concatenated files₁) := by
    simp only [entityOf, builder, hrows, hstore, hpolicy]
  have hread₁ : d₁.internalizeOn m₁ g s.kind first second = _ := internalize_of_laysOut hq₁ h₁ ho₁ he₁
  have hread₂ : d₂.internalizeOn m₂ g s.kind first second = _ := internalize_of_laysOut hq₂ h₂ ho₂ he₂
  rw [hentity] at hread₂
  cases hmade : d₁.entityOf g first second s (concatenated files₁) with
  | error e =>
    rw [hmade] at hread₁ hread₂
    rw [hread₁, hread₂]
    exact ⟨hstore, Or.inl ⟨e, entityOf_error hmade, rfl, rfl, rfl⟩⟩
  | ok x =>
    rw [hmade] at hread₁ hread₂
    rw [hread₁, hread₂]
    exact ⟨congrArg (fun store => Store.install store g x) hstore, Or.inr ⟨x, rfl, rfl, rfl⟩⟩

/-- What lays out the files of a directory that is at the place of a shard directory. -/
theorem laysOut_occupiedDisk {entries : Directory} (hp : (files.map Prod.fst).Perm (dataNames "_SUCCESS" entries))
    (hs : (files.map Prod.fst).Pairwise fun a b => Text.bytes a ≤ Text.bytes b)
    (hf : ∀ f ∈ files, ∃ t, entries.find? f.1 = some (.file (.table t)) ∧ t.LaysOut s f.2)
    (hn : ∀ f ∈ files, IsEntryName f.1 ∧ f.1.utf8ByteSize ≤ maxNameSize ∧ (Path.entry ⟨"d/v"⟩ f.1).check = .ok ()) :
    (occupiedDisk (.directory entries)).LaysOut s ⟨"d/v"⟩ files := by
  have hname : IsEntryName "v" := ⟨⟨by decide, by decide⟩, by decide, by decide⟩
  have hreach : (occupiedDisk (.directory entries)).files.Reaches ⟨"d"⟩ "v" ["d"] :=
    ⟨by decide +kernel, opens_occupiedDisk _, by decide⟩
  have hnode : (occupiedDisk (.directory entries)).files.node? (["d"] ++ ["v"]) = some (.directory entries) := rfl
  have hplace : Path.entry ⟨"d"⟩ "v" = ⟨"d/v"⟩ := by decide +kernel
  have hopens := hreach.opens.entry hname hreach.short (FileSystem.shape?_of_node? hnode)
  rw [hplace] at hopens
  refine ⟨⟨entries, ?_, hp, by simp [occupiedDisk]⟩, hs, fun f hfile => ?_⟩
  · rw [← hplace]
    exact FileSystem.list_entry hname hreach hnode
  · obtain ⟨t, ht, hlays⟩ := hf f hfile
    obtain ⟨hentry, hshort, hcheck⟩ := hn f hfile
    refine ⟨t, FileSystem.find_entry hentry ⟨hcheck, hopens, hshort⟩ ?_ (by simp [Node.shape]), hlays⟩
    rw [FileSystem.node?_entry hnode, ht]

/-- A table of another writer: the value before the id, optional and without a tag, and a row group without rows. -/
def foreignTable : Table where
  elements := [.leaf "value" .optional .byteArray .plain, .leaf "id" .required .int64 .signed64]
  groups := [[], [⟨7, "x"⟩]].map (RowGroup.holding .stringAttribute [(⟨"value", .utf8⟩, 1), (⟨"id", .int64⟩, 0)])
  stated := 1
  createdBy := none

theorem laysOut_foreignTable : foreignTable.LaysOut .stringAttribute [[], [⟨7, "x"⟩]] := by
  refine ⟨[(⟨"value", .utf8⟩, 1), (⟨"id", .int64⟩, 0)], by decide, ?_, rfl, by decide⟩
  exact .cons (.leaf (by decide) .bytes) (.cons (.leaf (by decide) .signed) .nil)

/-- A directory with one file. -/
def plainDirectory : Directory := [("part", .file (.table (Table.holding .stringAttribute [⟨7, "x"⟩, ⟨7, "y"⟩])))]

/-- A directory with the same rows in two files, with a marker, and with a directory in it. -/
def spreadDirectory : Directory := [("1", .file (.table foreignTable)),
  ("2", .file (.table (Table.holding .stringAttribute [⟨7, "y"⟩]))), ("_SUCCESS", .file .empty), ("old", .directory [])]

theorem spread_rows_read_alike : ∃ x,
    (occupiedDisk (.directory plainDirectory)).internalize ⟨"v"⟩ .stringAttribute (some ⟨"v"⟩) none =
      ({ occupiedDisk (.directory plainDirectory) with
          store := (occupiedDisk (.directory plainDirectory)).store.install ⟨"v"⟩ x },
        .ok ⟨⟨"v"⟩, .stringAttribute, 2, 1, ⟨"d/v"⟩⟩) ∧
    (occupiedDisk (.directory spreadDirectory)).internalize ⟨"v"⟩ .stringAttribute (some ⟨"v"⟩) none =
      ({ occupiedDisk (.directory spreadDirectory) with
          store := (occupiedDisk (.directory spreadDirectory)).store.install ⟨"v"⟩ x },
        .ok ⟨⟨"v"⟩, .stringAttribute, 2, 2, ⟨"d/v"⟩⟩) := by
  have hplain : (occupiedDisk (.directory plainDirectory)).LaysOut .stringAttribute ⟨"d/v"⟩
      [("part", [[⟨7, "x"⟩, ⟨7, "y"⟩]])] := by
    apply laysOut_occupiedDisk
    · decide +kernel
    · simp
    · simp only [List.forall_mem_singleton]
      exact ⟨_, rfl, Table.laysOut_holding _ _⟩
    · simp only [List.forall_mem_singleton]
      exact ⟨⟨⟨by decide, by decide⟩, by decide, by decide⟩, by decide, by decide +kernel⟩
  have hspread : (occupiedDisk (.directory spreadDirectory)).LaysOut .stringAttribute ⟨"d/v"⟩
      [("1", [[], [⟨7, "x"⟩]]), ("2", [[⟨7, "y"⟩]])] := by
    apply laysOut_occupiedDisk
    · decide +kernel
    · have hle : Text.bytes "1" ≤ Text.bytes "2" := Text.le_iff_bytes_le.mp (by decide)
      simpa using hle
    · simp only [List.forall_mem_cons, List.not_mem_nil, false_implies, implies_true, and_true]
      exact ⟨⟨_, rfl, laysOut_foreignTable⟩, _, rfl, Table.laysOut_holding _ _⟩
    · simp only [List.forall_mem_cons, List.not_mem_nil, false_implies, implies_true, and_true]
      exact ⟨⟨⟨⟨by decide, by decide⟩, by decide, by decide⟩, by decide, by decide +kernel⟩,
        ⟨⟨by decide, by decide⟩, by decide, by decide⟩, by decide, by decide +kernel⟩
  have hdirectory₁ : (occupiedDisk (.directory plainDirectory)).shardDirectory ⟨"v"⟩ = .ok ⟨"d/v"⟩ :=
    eq_ok_of_toOption (by decide +kernel)
  have hdirectory₂ : (occupiedDisk (.directory spreadDirectory)).shardDirectory ⟨"v"⟩ = .ok ⟨"d/v"⟩ :=
    eq_ok_of_toOption (by decide +kernel)
  have hindex : (VertexSet.ofIds #[7]).orderedIndex? 7 = some 0 := VertexSet.orderedIndex?_externalId? (by decide) rfl
  have hattribute : Attribute.ofRows "" ⟨⟨"v"⟩, .ofIds #[7]⟩ [⟨7, "x"⟩, ⟨7, "y"⟩] = .ok ⟨#[⟨"y", true⟩]⟩ := by
    simp only [Attribute.ofRows, Dependency.orderedIndex, List.mapM_cons, List.mapM_nil, hindex]
    rfl
  obtain ⟨-, ⟨e, -, herror, -⟩ | ⟨x, -, hread₁, hread₂⟩⟩ :=
    internalize_of_same_rows (some ⟨"v"⟩) none hdirectory₁ hdirectory₂
    hplain hspread rfl rfl rfl rfl rfl Machine.reliable_default Machine.reliable_default
  · have hmade : (Attribute.ofRows "" ⟨⟨"v"⟩, .ofIds #[7]⟩ [⟨7, "x"⟩, ⟨7, "y"⟩]).map Entity.stringAttribute =
        .error e := herror
    rw [hattribute] at hmade
    cases hmade
  · exact ⟨x, hread₁, hread₂⟩

end UnorderedDisk

end GraphDisk
