import GraphDisk.Proofs.Publication.Residue
import GraphDisk.Proofs.UnorderedDisk.Complete
import GraphDisk.Proofs.UnorderedDisk.Failure

/-!
# Writing again and again

Writing the shard directory of a guid, however often, changes the place of that directory and nothing else in the root,
if there was no regular file at the place (`UnorderedDisk.tidy_of_externalize`). What was there is gone. A regular file
is moved aside by the first write and never removed, so the root has one entry too many from then on, whatever is
written later.
-/

namespace GraphDisk

open FileSystem (Within MoreDirectories)

namespace UnorderedDisk

variable {d disk after : UnorderedDisk} {g : Guid} {first second : Option Guid} {name : String}
  {summary : Summary}

/-! ## One write -/

/-- What one write leaves: the shard directory at its place, and what is left in a directory after one of its entries
was replaced. -/
structure Replaced (d : UnorderedDisk) (g : Guid) (base : FileSystem) (r : Location) (block : RowBlock) : Prop where
  opens_base : base.Opens d.config.root r
  opens : d.files.Opens d.config.root r
  complete : d.files.node? (r ++ [g.text]) =
    some (.directory (shardFiles d.config.marker (Table.holding block.schema block.rows)))
  tidy : Publication.Tidy g.text r base d.files

theorem replaced_of_externalize (hc : d.config.fault? = none) (hf : d.FreeName g name)
    (hw : d.externalizeAs .none name g first second = (after, .ok summary)) :
    after = { d with files := after.files } ∧ ∃ e block r, d.store.get? g = some e ∧
      e.externalRows d.store first second = .ok block ∧ after.Replaced g d.ready r block := by
  obtain ⟨p, schema, rows, hp, hrun, hafter, -⟩ := externalizeAs_ok hw
  have hn := wellNamed_of_publication hc hf hp
  obtain ⟨r, ho, hpub, htidy⟩ := Publication.tidy_of_run hn (absent_of_publication hf hp).2 hrun
  obtain ⟨-, e, block, table, he, hb, ht, rfl, rfl, rfl⟩ := publication_ok hp
  rw [Table.ofRows_eq] at ht
  cases ht
  have hconfig : after.config = d.config := by rw [hafter]
  refine ⟨hafter, e, block, r, he, hb, ?_⟩
  constructor
  · rw [hconfig]; exact ho
  · rw [hconfig]; exact hpub.reaches.opens
  · rw [hconfig]; exact hpub.published
  · exact htidy

/-! ## Many writes -/

/-- **A disk after the entity of a guid was written any number of times**, whatever happened to the store in between. -/
inductive Rewritten (d : UnorderedDisk) (g : Guid) : UnorderedDisk → Prop
  | unwritten : Rewritten d g d
  | stored {disk : UnorderedDisk} (store : Store) : Rewritten d g disk → Rewritten d g { disk with store }
  | written {disk after : UnorderedDisk} {name : String} {first second : Option Guid} {summary : Summary} :
      Rewritten d g disk → disk.FreeName g name →
      disk.externalizeAs .none name g first second = (after, .ok summary) → Rewritten d g after

/-- One more write. -/
theorem replaced_again {base : FileSystem} (hc : disk.config.fault? = none)
    (h : disk.ready = base ∨ ∃ r block, disk.Replaced g base r block)
    (hf : disk.FreeName g name) (hw : disk.externalizeAs .none name g first second = (after, .ok summary)) :
    ∃ e block r, disk.store.get? g = some e ∧ e.externalRows disk.store first second = .ok block ∧
      after.Replaced g base r block := by
  obtain ⟨hafter, e, block, r, he, hb, hnew⟩ := replaced_of_externalize hc hf hw
  refine ⟨e, block, r, he, hb, ?_⟩
  rcases h with rfl | ⟨r', held, hold⟩
  · exact hnew
  · have hconfig : after.config = disk.config := by rw [hafter]
    have hready : disk.ready = disk.files := FileSystem.makeDirectories_of_opens hold.opens
    rw [hready] at hnew
    have hopens := hnew.opens_base
    rw [hconfig] at hopens
    obtain rfl := hold.opens.unique hopens
    refine ⟨?_, hnew.opens, hnew.complete, hold.tidy.trans hold.complete hnew.tidy⟩
    rw [hconfig]
    exact hold.opens_base

theorem Rewritten.replaced (hc : d.config.fault? = none) (h : d.Rewritten g disk) :
    disk.config = d.config ∧ (disk.ready = d.ready ∨ ∃ r block, disk.Replaced g d.ready r block) := by
  induction h with
  | unwritten => exact ⟨rfl, Or.inl rfl⟩
  | stored store _ ih =>
    refine ⟨ih.1, ih.2.imp id ?_⟩
    rintro ⟨r, block, h⟩
    exact ⟨r, block, h.opens_base, h.opens, h.complete, h.tidy⟩
  | written _ hf hw ih =>
    have hc' := hc
    rw [← ih.1] at hc'
    obtain ⟨hafter, -⟩ := replaced_of_externalize hc' hf hw
    obtain ⟨-, block, r, -, -, h⟩ := replaced_again hc' ih.2 hf hw
    refine ⟨?_, Or.inr ⟨r, block, h⟩⟩
    rw [hafter]
    exact ih.1

/-- The names in a directory after entries were replaced. -/
theorem mem_namesAt_of_within {fs fs' : FileSystem} {r : Location} {names : List String} (h : Within r names fs fs')
    (hd : fs.shape? r = some .directory) (hn : ∀ a ∈ names, ∃ x, fs'.node? (r ++ [a]) = some x) (k : String) :
    k ∈ fs'.namesAt r ↔ k ∈ fs.namesAt r ∨ k ∈ names := by
  have hd' : fs'.shape? r = some .directory := by rw [h.directory, hd]
  rw [FileSystem.mem_namesAt hd, FileSystem.mem_namesAt hd']
  by_cases hk : k ∈ names
  · simp [hk, hn k hk]
  · simp [hk, h.entry hk]

/-- **Writing leaves no debris**, however often an entity is written, unless there was a regular file at the place of
its shard directory. Beside the files as they were once the root had been made, only the place differs: it has the
directory that was written last. If there was a regular file at the place, that file remains under a name aside. -/
theorem tidy_of_externalize (hc : d.config.fault? = none) (hr : d.Rewritten g disk) (hf : disk.FreeName g name)
    (hw : disk.externalizeAs .none name g first second = (after, .ok summary)) :
    MoreDirectories d.config.root.chain d.files d.ready ∧ (∀ r, d.files.Opens d.config.root r → d.ready = d.files) ∧
    ∃ e block r, disk.store.get? g = some e ∧ e.externalRows disk.store first second = .ok block ∧
      d.ready.Opens d.config.root r ∧ after.files.Opens d.config.root r ∧
      after.files.node? (r ++ [g.text]) =
        some (.directory (shardFiles d.config.marker (Table.holding block.schema block.rows))) ∧
      ((∀ content, d.ready.node? (r ++ [g.text]) ≠ some (.file content)) →
        Within r [g.text] d.ready after.files ∧
        ∀ k, k ∈ after.files.namesAt r ↔ k ∈ d.ready.namesAt r ∨ k = g.text) ∧
      ∀ content, d.ready.node? (r ++ [g.text]) = some (.file content) →
        ∃ staging, asideName staging ∉ d.ready.namesAt r ∧
          after.files.node? (r ++ [asideName staging]) = some (.file content) ∧
          Within r [g.text, asideName staging] d.ready after.files ∧
          ∀ k, k ∈ after.files.namesAt r ↔ k ∈ d.ready.namesAt r ∨ k = asideName staging := by
  obtain ⟨hconfig, hbefore⟩ := hr.replaced hc
  have hc' := hc
  rw [← hconfig] at hc'
  obtain ⟨hafter, -⟩ := replaced_of_externalize hc' hf hw
  obtain ⟨e, block, r, he, hb, h⟩ := replaced_again hc' hbefore hf hw
  have hconfig' : after.config = d.config := by rw [hafter]; exact hconfig
  obtain ⟨ho, ho', hcomplete, htidy⟩ := h
  rw [hconfig'] at ho ho' hcomplete
  refine ⟨MoreDirectories.of_makeDirectories _ _, fun _ h => FileSystem.makeDirectories_of_opens h,
    e, block, r, he, hb, ho, ho', hcomplete, ?_, ?_⟩
  · intro hnot
    cases htidy with
    | file hfile => exact absurd hfile (hnot _)
    | clean _ hwithin =>
      refine ⟨hwithin, fun k => ?_⟩
      rw [mem_namesAt_of_within hwithin ho.directory (by simp [hcomplete]), List.mem_singleton]
  · intro content hfile
    cases htidy with
    | clean hnot _ => exact absurd hfile (hnot _)
    | @file content' staging hfile' _ hfree haside hwithin =>
      rw [hfile] at hfile'
      cases hfile'
      refine ⟨staging, ?_, haside, hwithin, fun k => ?_⟩
      · rw [FileSystem.mem_namesAt ho.directory, hfree]
        simp
      · have hname : g.text ∈ d.ready.namesAt r := (FileSystem.mem_namesAt ho.directory).mpr ⟨_, hfile⟩
        rw [mem_namesAt_of_within hwithin ho.directory (by simp [hcomplete, haside])]
        constructor
        · rintro (hk | hk)
          · exact Or.inl hk
          · rcases List.mem_pair.mp hk with rfl | rfl
            · exact Or.inl hname
            · exact Or.inr rfl
        · rintro (hk | rfl)
          · exact Or.inl hk
          · exact Or.inr (by simp)

theorem externalize_oldDirectory : ∃ after, (occupiedDisk oldDirectory).externalize ⟨"v"⟩ none none =
    (after, .ok ⟨⟨"v"⟩, .vertexSet, 1, 1, ⟨"d/v"⟩⟩) :=
  externalize_of_toOption (by decide +kernel)

/-- A directory is replaced twice. -/
theorem directory_replaced_twice : ∃ disk after,
    (occupiedDisk oldDirectory).externalize ⟨"v"⟩ none none =
      (disk, .ok ⟨⟨"v"⟩, .vertexSet, 1, 1, ⟨"d/v"⟩⟩) ∧
    disk.externalize ⟨"v"⟩ none none = (after, .ok ⟨⟨"v"⟩, .vertexSet, 1, 1, ⟨"d/v"⟩⟩) ∧
    ∀ k, k ∈ after.files.namesAt ["d"] ↔ k = "v" := by
  obtain ⟨disk, hdisk⟩ := externalize_oldDirectory
  obtain ⟨after, hafter⟩ : ∃ after, disk.externalize ⟨"v"⟩ none none =
      (after, .ok ⟨⟨"v"⟩, .vertexSet, 1, 1, ⟨"d/v"⟩⟩) := by
    rw [show disk = _ from (congrArg Prod.fst hdisk).symm]
    exact externalize_of_toOption (by decide +kernel)
  obtain ⟨-, hready, e, block, r, -, -, ho, -, -, hclean, -⟩ :=
    tidy_of_externalize rfl (.written .unwritten (freeName_freshStagingName _ _) hdisk)
      (freeName_freshStagingName _ _) hafter
  have hopens := opens_occupiedDisk oldDirectory
  have hroot := hready _ hopens
  rw [hroot] at ho hclean
  obtain rfl := hopens.unique ho
  obtain ⟨-, hnames⟩ := hclean (fun content h => by cases h)
  refine ⟨disk, after, hdisk, hafter, fun k => ?_⟩
  rw [hnames, show FileSystem.namesAt _ ["d"] = ["v"] from rfl]
  simp

/-- **A regular file remains aside.** -/
theorem file_left_aside : ∃ after,
    (occupiedDisk (.file (.bytes ⟨#[0]⟩))).externalize ⟨"v"⟩ none none =
      (after, .ok ⟨⟨"v"⟩, .vertexSet, 1, 1, ⟨"d/v"⟩⟩) ∧
    after.files.namesAt ["d"] = [".replaced.staging-000000", "v"] := by
  obtain ⟨after, hafter⟩ : ∃ after, (occupiedDisk (.file (.bytes ⟨#[0]⟩))).externalize ⟨"v"⟩ none none =
      (after, .ok ⟨⟨"v"⟩, .vertexSet, 1, 1, ⟨"d/v"⟩⟩) :=
    externalize_of_toOption (by decide +kernel)
  refine ⟨after, hafter, ?_⟩
  rw [show after = _ from (congrArg Prod.fst hafter).symm]
  decide +kernel

end UnorderedDisk

end GraphDisk
