import GraphDisk.Proofs.Publication.Failure

/-!
# Publications that succeed

A publication without refused calls succeeds if the root can be made, the names and paths are not too long, nothing is
at the staging path, and nothing (`Publication.run_of_free`) or a directory (`Publication.run_of_occupied`) is at the
place of the shard directory.
-/

namespace GraphDisk

namespace Publication

variable {p : Publication} {refused : Refusals} {fs base after : FileSystem} {r : Location}
  {entries : Directory} {x : String}

/-- No name of a publication and no path on which it writes is too long. -/
structure Fits (p : Publication) : Prop where
  name_short : p.name.utf8ByteSize ≤ maxNameSize
  staging_short : p.stagingName.utf8ByteSize ≤ maxNameSize
  marker_short : p.marker.utf8ByteSize ≤ maxNameSize
  target : p.target.check = .ok ()
  staging : p.staging.check = .ok ()
  part : (p.staging.entry (partFileName 0)).check = .ok ()
  marker : (p.staging.entry p.marker).check = .ok ()

/-- A file can be written into the staging directory. -/
theorem Staged.writeFile (content : Content) (h : Staged p base fs r entries) (hn : p.WellNamed) (hx : IsEntryName x)
    (hc : (p.staging.entry x).check = .ok ()) (hs : x.utf8ByteSize ≤ maxNameSize)
    (hf : ∀ y, entries.find? x = some y → y.isFile) :
    ∃ after, fs.writeFile (p.staging.entry x) content = .ok after ∧
      Staged p base after r (Directory.insert x (.file content) entries) := by
  have hreach : fs.Reaches p.staging x (r ++ [p.stagingName]) := ⟨hc, h.opens_staging hn, hs⟩
  have hnode : fs.node? (r ++ [p.stagingName] ++ [x]) = entries.find? x := FileSystem.node?_entry h.staged x
  have hwritten := FileSystem.writeFile_entry content hx hreach fun y hy => hf y (by rw [← hnode, hy])
  refine ⟨_, hwritten, h.write hn hx (fun target ht => ?_) hwritten⟩
  cases hf _ ht

/-- **What fits can be assembled.** -/
theorem assembly_of_fits (hn : p.WellNamed) (hp : p.Fits) (hm : (fs.makeDirectories p.root).2 = .ok ())
    (ho : (p.ready fs).Opens p.root r) (hs : (p.ready fs).node? (r ++ [p.stagingName]) = none) :
    ∃ assembled, Step.runAll .none fs p.assembly = (assembled, .ok ()) ∧
      Staged p (p.ready fs) assembled r p.complete := by
  have hroot : (Call.makeDirectories p.root).perform fs = (p.ready fs, .ok ()) := Prod.ext rfl hm
  have hmade := FileSystem.makeDirectory_entry hn.staging ⟨hp.staging, ho, hp.staging_short⟩ hs
  obtain ⟨r', hstaged⟩ := Staged.of_makeDirectory hn hmade
  obtain rfl := ho.unique hstaged.opens_base
  obtain ⟨fs₁, hpart, hstaged⟩ := hstaged.writeFile (.table p.table) hn isEntryName_partFileName hp.part
    partFileName_short (by simp)
  obtain ⟨fs₂, hmarker, hstaged⟩ := hstaged.writeFile .empty hn hn.marker hp.marker hp.marker_short (by
    intro y hy
    rw [Directory.find?_insert] at hy
    split at hy
    · cases hy; rfl
    · cases hy)
  have hallowed : ∀ c, Refusals.none c = none := fun _ => rfl
  have hstep₂ : (Call.makeDirectory p.staging).perform (p.ready fs) = (_, .ok ()) := Call.settle_ok.mpr hmade
  have hstep₃ : (Call.writeFile (p.staging.entry (partFileName 0)) (.table p.table)).perform _ = (fs₁, .ok ()) :=
    Call.settle_ok.mpr hpart
  have hstep₄ : (Call.writeFile (p.staging.entry p.marker) .empty).perform _ = (fs₂, .ok ()) :=
    Call.settle_ok.mpr hmarker
  refine ⟨fs₂, ?_, hstaged⟩
  unfold assembly
  rw [Step.runAll_cons_of_ok (hallowed _) hroot, Step.runAll_cons_of_ok (hallowed _) hstep₂,
    Step.runAll_cons_of_ok (hallowed _) hstep₃, Step.runAll_cons_of_ok (hallowed _) hstep₄]
  rfl

/-- A publication succeeds if both of its parts do. -/
theorem run_of_parts {assembled : FileSystem} (ha : Step.runAll refused fs p.assembly = (assembled, .ok ()))
    (hs : (Step.runAll refused assembled (p.swap (assembled.exists? p.target))).2 = .ok ()) :
    (p.run refused fs).2 = .ok () := by
  unfold run
  rw [ha]
  simp only
  rcases hswap : Step.runAll refused assembled (p.swap (assembled.exists? p.target)) with ⟨swapped, e | ⟨⟩⟩
  · rw [hswap] at hs; cases hs
  · rfl

/-- **Where nothing is in the way, publishing succeeds.** -/
theorem run_of_free (hn : p.WellNamed) (hp : p.Fits) (hm : (fs.makeDirectories p.root).2 = .ok ())
    (ho : (p.ready fs).Opens p.root r) (hs : (p.ready fs).node? (r ++ [p.stagingName]) = none)
    (ht : (p.ready fs).node? (r ++ [p.name]) = none) : (p.run .none fs).2 = .ok () := by
  obtain ⟨assembled, hassembly, hstaged⟩ := assembly_of_fits hn hp hm ho hs
  have hname : assembled.node? (r ++ [p.name]) = none := by rw [hstaged.beside hn.staging_ne.symm, ht]
  have hreach : assembled.Reaches p.root p.name r := ⟨hp.target, hstaged.opens, hp.name_short⟩
  have hexists : assembled.exists? p.target = false := by
    unfold FileSystem.exists? target
    rw [FileSystem.find_free hn.name hreach hname]
    rfl
  have hrename := FileSystem.rename_entry hn.staging hn.name hstaged.reaches_self hreach hstaged.staged hname
  have hstep : (Call.rename p.staging p.target).perform assembled = (_, .ok ()) := Call.settle_ok.mpr hrename
  refine run_of_parts hassembly ?_
  rw [hexists, swap, if_neg (by simp), Step.runAll_cons_of_ok rfl hstep]
  rfl

/-- **Where a directory is in the way, publishing succeeds**, too, if the root is still found while the directory lies
aside. -/
theorem run_of_occupied {old : Directory} (hn : p.WellNamed) (hp : p.Fits) (hm : (fs.makeDirectories p.root).2 = .ok ())
    (ho : (p.ready fs).Opens p.root r) (hs : (p.ready fs).node? (r ++ [p.stagingName]) = none)
    (ha : Absent (p.ready fs) p.aside) (hcheck : p.aside.check = .ok ())
    (hshort : (asideName p.stagingName).utf8ByteSize ≤ maxNameSize) (hbeside : p.RootBeside fs)
    (ht : (p.ready fs).node? (r ++ [p.name]) = some (.directory old)) : (p.run .none fs).2 = .ok () := by
  obtain ⟨assembled, hassembly, hstaged⟩ := assembly_of_fits hn hp hm ho hs
  have hname : assembled.node? (r ++ [p.name]) = some (.directory old) := by rw [hstaged.beside hn.staging_ne.symm, ht]
  have haside : assembled.node? (r ++ [asideName p.stagingName]) = none := by
    rw [hstaged.beside hn.aside_ne_staging, ha.free ⟨hcheck, ho, hshort⟩ hn.aside]
  have hreach : assembled.Reaches p.root p.name r := ⟨hp.target, hstaged.opens, hp.name_short⟩
  have hexists : assembled.exists? p.target = true := by
    unfold FileSystem.exists? target
    rw [FileSystem.find_entry hn.name hreach hname (by simp [Node.shape])]
    rfl
  have hrename₁ := FileSystem.rename_entry hn.name hn.aside hreach ⟨hcheck, hstaged.opens, hshort⟩ hname haside
  obtain ⟨_, hset⟩ := hstaged.setAside hn ha hrename₁
  have hopens := hset.opens_of_without hset.within (hbeside r ho)
  have hrename₂ := FileSystem.rename_entry hn.staging hn.name ⟨hp.staging, hopens, hp.staging_short⟩
    ⟨hp.target, hopens, hp.name_short⟩ hset.staged hset.gone
  have hstep₁ : (Call.rename p.target p.aside).perform assembled = (_, .ok ()) := Call.settle_ok.mpr hrename₁
  have hstep₂ : (Call.rename p.staging p.target).perform _ = (_, .ok ()) := Call.settle_ok.mpr hrename₂
  refine run_of_parts hassembly ?_
  rw [hexists, swap, if_pos rfl, Step.runAll_cons_of_ok rfl hstep₁, Step.runAll_cons_of_ok rfl hstep₂]
  rfl

end Publication

end GraphDisk
