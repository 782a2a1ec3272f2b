import GraphDisk.Proofs.UnorderedDisk.Publication
import GraphDisk.Proofs.Workers

/-!
# Shard directories that hold rows

What reading depends on is the listing of the shard directory and what opening its data file gives
(`UnorderedDisk.Holds`). That is so after writing (`holds_of_externalize`) and remains so as long as the directory is
not touched (`Holds.frame`). What is read then are the rows that were written, on whatever machine that shows the disk
as it is (`Holds.read`), unless the path of the data file has become too long by the final name, or the marker has taken
the place of the data file (`Holds.read_clash`).
-/

namespace GraphDisk

namespace UnorderedDisk

variable {d disk after : UnorderedDisk} {refused : Refusals} {g : Guid} {first second : Option Guid} {name : String}
  {summary : Summary} {block : RowBlock} {m : Machine} {kind : Kind} {e : Error} {x : Entity}

/-- The place of the shard directory of a guid. -/
def place (d : UnorderedDisk) (g : Guid) : Path := d.config.root.entry g.text

/-- The only data file of a shard directory that was written. -/
def dataFile (d : UnorderedDisk) (g : Guid) : Path := (d.place g).entry (partFileName 0)

/-- The path of the data file cannot be handed to the file system. -/
def TooLong (d : UnorderedDisk) (g : Guid) : Prop := maxPathSize < (d.dataFile g).text.utf8ByteSize

instance (d : UnorderedDisk) (g : Guid) : Decidable (d.TooLong g) := inferInstanceAs (Decidable (_ < _))

/-- **The shard directory of a guid holds some rows.** -/
structure Holds (d : UnorderedDisk) (g : Guid) (block : RowBlock) : Prop where
  named : g.entryName = .ok g.text
  listed : d.files.list (d.place g) = .ok (shardFiles d.config.marker (Table.holding block.schema block.rows))
  opened : d.config.marker ≠ partFileName 0 → d.files.openShard (d.dataFile g) =
    if d.TooLong g then .error (.io .nameTooLong) else .ok (Shard.holding block.schema block.rows)

/-! ## After writing -/

theorem openShard_of_find {fs : FileSystem} {q : Path} {schema : Schema} {rows : List schema.Row}
    (h : fs.find q = .ok (.file (.table (Table.holding schema rows)))) :
    fs.openShard q = .ok (Shard.holding schema rows) := by
  unfold FileSystem.openShard
  rw [h]
  simp only [Shard.ofTable_holding]

theorem openShard_of_check {fs : FileSystem} {q : Path} {fault : IoFault} (h : q.check = .error fault) :
    fs.openShard q = .error (.io fault) := by
  unfold FileSystem.openShard
  rw [FileSystem.find_of_check h]

theorem externalizeAs_ok (h : d.externalizeAs refused name g first second = (after, .ok summary)) :
    ∃ p schema rows, d.publication name g first second = .ok (p, schema, rows) ∧
      p.run refused d.files = (after.files, .ok ()) ∧ after = { d with files := after.files } ∧
      summary = ⟨g, schema.kind, rows, 1, p.target⟩ := by
  unfold externalizeAs at h
  cases hp : d.publication name g first second with
  | error e =>
    rw [hp] at h
    cases h
  | ok x =>
    obtain ⟨p, schema, rows⟩ := x
    rw [hp] at h
    simp only at h
    rcases hr : p.run refused d.files with ⟨files, fault | ⟨⟩⟩
    · rw [hr] at h
      cases h
    · rw [hr] at h
      cases h
      exact ⟨p, schema, rows, rfl, hr, rfl, rfl⟩

theorem externalize_of_toOption (h : (d.externalize g first second).2.toOption = some summary) :
    ∃ after, d.externalizeAs .none (d.freshStagingName g) g first second = (after, .ok summary) :=
  ⟨_, Prod.ext rfl (eq_ok_of_toOption h)⟩

/-- A shard directory that is reached and has the files of some rows holds these rows. -/
theorem holds_of_reaches {r : Location} (hg : g.entryName = .ok g.text) (hr : d.files.Reaches d.config.root g.text r)
    (hx : d.files.node? (r ++ [g.text]) =
      some (.directory (shardFiles d.config.marker (Table.holding block.schema block.rows)))) : d.Holds g block := by
  have hname := (Guid.entryName_ok hg).2
  refine ⟨hg, FileSystem.list_entry hname hr hx, fun hm => ?_⟩
  have hcheck : (d.dataFile g).check = if d.TooLong g then .error .nameTooLong else .ok () :=
    Path.check_entry hr.check Publication.isEntryName_partFileName.toIsSegment (by decide +kernel)
  by_cases hlong : d.TooLong g
  · rw [if_pos hlong]
    rw [if_pos hlong] at hcheck
    exact openShard_of_check hcheck
  · rw [if_neg hlong]
    rw [if_neg hlong] at hcheck
    have hopens := hr.opens.entry hname hr.short (FileSystem.shape?_of_node? hx)
    have hpart : d.files.node? (r ++ [g.text] ++ [partFileName 0]) = _ := FileSystem.node?_entry hx _
    rw [find?_shardFiles_part hm] at hpart
    refine openShard_of_find (FileSystem.find_entry Publication.isEntryName_partFileName ⟨hcheck, hopens, ?_⟩ hpart ?_)
    · exact Publication.partFileName_short
    · simp [Node.shape]

/-- **After writing, the shard directory holds the rows of the entity.** -/
theorem holds_of_externalize (hc : d.config.fault? = none) (hf : d.FreeName g name)
    (h : d.externalizeAs refused name g first second = (after, .ok summary)) :
    ∃ e block, d.store.get? g = some e ∧ e.externalRows d.store first second = .ok block ∧
      after = { d with files := after.files } ∧
      summary = ⟨g, block.schema.kind, block.rows.length, 1, d.place g⟩ ∧ after.Holds g block := by
  obtain ⟨p, schema, rows, hp, hrun, hafter, rfl⟩ := externalizeAs_ok h
  have hn := wellNamed_of_publication hc hf hp
  obtain ⟨r, hpub⟩ := Publication.published_of_run hn (absent_of_publication hf hp).2 hrun
  obtain ⟨-, e, block, table, he, hb, ht, rfl, rfl, rfl⟩ := publication_ok hp
  rw [Table.ofRows_eq] at ht
  cases ht
  have hconfig : after.config = d.config := by rw [hafter]
  refine ⟨e, block, he, hb, hafter, rfl, holds_of_reaches (r := r) (entryName_of_publication hp) ?_ ?_⟩
  · rw [hconfig]
    exact hpub.reaches
  · rw [hconfig]
    exact hpub.published

theorem Holds.shardDirectory_eq (h : d.Holds g block) : d.shardDirectory g = .ok (d.place g) := by
  unfold shardDirectory
  rw [h.named]
  rfl

/-! ## Until reading -/

/-- The shard directory of a guid reads in one disk as in the other. -/
structure Untouched (d disk : UnorderedDisk) (g : Guid) : Prop where
  config : disk.config = d.config
  listed : disk.files.list (d.place g) = d.files.list (d.place g)
  opened : ∀ name, disk.files.openShard ((d.place g).entry name) = d.files.openShard ((d.place g).entry name)

theorem Untouched.refl (d : UnorderedDisk) (g : Guid) : d.Untouched d g := ⟨rfl, rfl, fun _ => rfl⟩

theorem Holds.frame (h : d.Holds g block) (hu : d.Untouched disk g) : disk.Holds g block := by
  have hplace : disk.place g = d.place g := by rw [place, place, hu.config]
  constructor
  · exact h.named
  · rw [hplace, hu.listed, h.listed, hu.config]
  · intro hm
    rw [hu.config] at hm
    have hfile : disk.dataFile g = d.dataFile g := by rw [dataFile, dataFile, hplace]
    have hlong : disk.TooLong g = d.TooLong g := by rw [TooLong, TooLong, hfile]
    have hopened : disk.files.openShard (d.dataFile g) = d.files.openShard (d.dataFile g) := hu.opened _
    simp only [hlong, hfile, hopened]
    exact h.opened hm

/-! ## Reading -/

theorem internalize_of_rebuild_error (h : d.rebuild m g kind first second = .error e) :
    d.internalizeOn m g kind first second = (d, .error e) := by
  unfold internalizeOn
  rw [h]

theorem internalize_of_rebuild_ok (h : d.rebuild m g kind first second = .ok (x, summary)) :
    d.internalizeOn m g kind first second = ({ d with store := d.store.install g x }, .ok summary) := by
  unfold internalizeOn
  rw [h]

theorem rebuild_of_internalize_ok (h : (d.internalizeOn m g kind first second).2 = .ok summary) :
    ∃ x, d.rebuild m g kind first second = .ok (x, summary) := by
  rcases ok_or_error (d.rebuild m g kind first second) with ⟨⟨x, summary'⟩, hx⟩ | ⟨e, hx⟩
  · rw [internalize_of_rebuild_ok hx] at h
    cases h
    exact ⟨x, hx⟩
  · rw [internalize_of_rebuild_error hx] at h
    cases h

section Reading

variable (h : d.Holds g block) (he : m.Faithful)
include h he

theorem Holds.listing_eq (hm : d.config.marker ≠ partFileName 0) :
    d.listing m (d.place g) = .ok ⟨d.place g, [partFileName 0], true⟩ := by
  unfold listing
  rw [he.list, h.listed]
  simp only [Except.map, ofEntries_shardFiles hm (he.lists _)]
  simp

theorem Holds.listing_clash (hm : d.config.marker = partFileName 0) :
    d.listing m (d.place g) = .ok ⟨d.place g, [], true⟩ := by
  unfold listing
  rw [he.list, h.listed, hm]
  simp only [Except.map, ofEntries_shardFiles_clash (he.lists _)]
  simp

/-- **The rows that were written are read**, unless the path of their file is too long. -/
theorem Holds.read (hm : d.config.marker ≠ partFileName 0) :
    (d.listing m (d.place g) >>= d.readRows m block.schema) =
      if d.TooLong g then .error (.io .nameTooLong) else .ok (block.rows, 1) := by
  have hfile : d.readFile m block.schema (d.dataFile g) =
      if d.TooLong g then .error (.io .nameTooLong) else .ok block.rows := by
    unfold readFile
    rw [he.openShard, h.opened hm]
    split
    · rfl
    · simp only [bind, Except.bind, Shard.readRowsBy_holding]
      rfl
  rw [h.listing_eq he hm]
  simp only [bind, Except.bind]
  unfold readRows
  rw [show Listing.paths ⟨d.place g, [partFileName 0], true⟩ = [d.dataFile g] from rfl,
    List.mapM_cons, List.mapM_nil, hfile]
  by_cases hlong : d.TooLong g
  · simp [hlong, bind, Except.bind]
  · simp [hlong, bind, Except.bind, pure, Except.pure]

theorem Holds.read_bind (hm : d.config.marker ≠ partFileName 0) {β : Type}
    (k : List block.schema.Row × Nat → Except Error β) :
    (d.listing m (d.place g) >>= fun l => d.readRows m block.schema l >>= k) =
      if d.TooLong g then .error (.io .nameTooLong) else k (block.rows, 1) := by
  rw [← bind_assoc, h.read he hm]
  by_cases hlong : d.TooLong g
  · rw [if_pos hlong, if_pos hlong]
    rfl
  · rw [if_neg hlong, if_neg hlong]
    rfl

/-- **Nothing is read** if the marker has the name of the data file. -/
theorem Holds.read_clash (hm : d.config.marker = partFileName 0) (s : Schema) :
    (d.listing m (d.place g) >>= d.readRows m s) = .ok ([], 0) := by
  rw [h.listing_clash he hm]
  rfl

end Reading

end UnorderedDisk

end GraphDisk
