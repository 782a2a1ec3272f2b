import GraphDisk.Proofs.FileSystem.Shape
import GraphDisk.ShardDirectory.Listing

/-!
# The files of a shard directory that was written

A shard directory is written with one data file and a marker. If the names differ, the listing of the directory has that
one data file and the marker, in whatever order the directory lists them (`ofEntries_shardFiles`). If the marker has the
name of the data file it has taken its place, and nothing is left to be read (`ofEntries_shardFiles_clash`).
-/

namespace GraphDisk

/-- The files of a shard directory that holds a table. The marker is written last. -/
def shardFiles (marker : String) (t : Table) : Directory :=
  Directory.insert marker (.file .empty) (Directory.insert (partFileName 0) (.file (.table t)) [])

variable {marker : String} {t : Table} {directory : Path} {ordering : ShardOrdering} {entries : Directory}

theorem find?_shardFiles_part (hm : marker ≠ partFileName 0) :
    (shardFiles marker t).find? (partFileName 0) = some (.file (.table t)) := by
  unfold shardFiles
  rw [Directory.find?_insert, if_neg hm.symm, Directory.find?_insert, if_pos rfl]

theorem shardFiles_perm (hm : marker ≠ partFileName 0) :
    (shardFiles marker t).Perm [(marker, .file .empty), (partFileName 0, .file (.table t))] := by
  have hone : Directory.insert (partFileName 0) (.file (.table t)) [] = [(partFileName 0, .file (.table t))] := rfl
  unfold shardFiles
  rw [hone, Directory.insert, if_neg hm]
  split
  · exact List.Perm.refl _
  · exact List.Perm.swap _ _ _

theorem shardFiles_clash (t : Table) : shardFiles (partFileName 0) t = [(partFileName 0, .file .empty)] := by
  have hone : Directory.insert (partFileName 0) (.file (.table t)) [] = [(partFileName 0, .file (.table t))] := rfl
  unfold shardFiles
  rw [hone, Directory.insert, if_neg (String.lt_irrefl _), if_pos rfl]

/-- **One data file and the marker**, if their names differ. -/
theorem ofEntries_shardFiles (hm : marker ≠ partFileName 0) (hp : entries.Perm (shardFiles marker t)) :
    Listing.ofEntries directory marker ordering entries = ⟨directory, [partFileName 0], true⟩ := by
  have hfiles : ((entries.filter fun e => e.2.isFile).map Prod.fst).Perm [marker, partFileName 0] := by
    have := ((hp.trans (shardFiles_perm hm)).filter fun e => e.2.isFile).map Prod.fst
    simpa [Node.isFile] using this
  have hnames : ((entries.filter fun e => e.2.isFile).map Prod.fst).filter (· ≠ marker) = [partFileName 0] := by
    have := hfiles.filter (· ≠ marker)
    simpa [hm.symm] using this
  have hmarker : ((entries.filter fun e => e.2.isFile).map Prod.fst).contains marker = true := by
    rw [List.contains_iff_mem, hfiles.mem_iff]
    simp
  simp only [Listing.ofEntries]
  rw [hnames, hmarker]
  cases ordering <;> simp

/-- **No data file at all**, if the marker has the name of the data file. -/
theorem ofEntries_shardFiles_clash (hp : entries.Perm (shardFiles (partFileName 0) t)) :
    Listing.ofEntries directory (partFileName 0) ordering entries = ⟨directory, [], true⟩ := by
  rw [shardFiles_clash] at hp
  rw [hp.eq_singleton]
  cases ordering <;> simp [Listing.ofEntries, Node.isFile]

end GraphDisk
