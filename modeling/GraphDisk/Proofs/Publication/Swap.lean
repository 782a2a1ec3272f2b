import GraphDisk.Proofs.Publication.Assembly

/-!
# Swapping a shard directory in

A swap moves entries of the root. Between its two renames the place of the shard directory is empty, and what was there
lies aside (`Publication.SetAside`). A path to the root that leads through the place leads nowhere then; since the
second rename finds the root all the same, the root is found without the place (`SetAside.opens_without`). So a
publication that succeeds leaves the assembled directory at its place (`published_of_run`).
-/

namespace GraphDisk

open FileSystem (Within Extends Thins)

namespace Publication

variable {p : Publication} {refused : Refusals} {fs fs' base after : FileSystem} {r : Location} {entries : Directory}
  {x : String}

/-! ## Between the renames -/

/-- Nothing is at a path. -/
def Absent (fs : FileSystem) (q : Path) : Prop := ∀ l x, fs.place q ≠ .ok (.found l x)

theorem Absent.free {q : Path} (h : Absent fs (q.entry x)) (hr : fs.Reaches q x r) (hx : IsEntryName x) :
    fs.node? (r ++ [x]) = none := by
  cases hy : fs.node? (r ++ [x]) with
  | none => rfl
  | some y =>
    have hplace := hr.place hx
    rw [FileSystem.targetAt_some hy] at hplace
    exact absurd hplace (h _ _)

/-- The entries of the root that a publication is about. -/
def entryNames (p : Publication) : List String := [p.stagingName, asideName p.stagingName, p.name]

/-- **A file system between the two renames of a swap**, beside the one before the staging directory was made. What was
at the place of the shard directory lies aside. -/
structure SetAside (p : Publication) (base fs : FileSystem) (r : Location) (old : Node) (entries : Directory) :
    Prop where
  reaches_staging : base.Reaches p.root p.stagingName r
  reaches_aside : base.Reaches p.root (asideName p.stagingName) r
  reaches_name : base.Reaches p.root p.name r
  free_staging : base.node? (r ++ [p.stagingName]) = none
  free_aside : base.node? (r ++ [asideName p.stagingName]) = none
  old_node : base.node? (r ++ [p.name]) = some old
  within : Within r p.entryNames base fs
  staged : fs.node? (r ++ [p.stagingName]) = some (.directory entries)
  moved : fs.node? (r ++ [asideName p.stagingName]) = some old
  gone : fs.node? (r ++ [p.name]) = none

theorem Staged.setAside (h : Staged p base fs r entries) (hn : p.WellNamed) (ha : Absent base p.aside)
    (hr : fs.rename p.target p.aside = .ok fs') : ∃ old, SetAside p base fs' r old entries := by
  obtain ⟨r', old, hrn, hra, hold, -, rfl⟩ := FileSystem.rename_ok hn.name hn.aside hn.aside_ne.symm hr
  obtain rfl := h.opens.unique hrn.opens
  have hd := h.opens.directory
  have hreach : base.Reaches p.root (asideName p.stagingName) r := ⟨hra.check, h.opens_base, hra.short⟩
  have hnode := FileSystem.node?_move_entry hd p.name (asideName p.stagingName) old
  refine ⟨old, ?_⟩
  constructor
  · exact h.reaches
  · exact hreach
  · exact ⟨hrn.check, h.opens_base, hrn.short⟩
  · exact h.free
  · exact ha.free hreach hn.aside
  · rw [← h.beside hn.staging_ne.symm, hold]
  · exact (h.within.mono (by simp [entryNames])).trans ((Within.move hd _ _ old).mono (by simp [entryNames]))
  · rw [hnode, if_neg hn.aside_ne_staging.symm, if_neg hn.staging_ne, h.staged]
  · rw [hnode, if_pos rfl]
  · rw [hnode, if_neg hn.aside_ne.symm, if_pos rfl]

namespace SetAside

variable {old : Node}

/-- What there is without the place of the shard directory. -/
theorem within_without (h : SetAside p base fs r old entries) :
    Within r p.entryNames base (base.erase (r ++ [p.name])) :=
  (Within.erase h.reaches_name.opens.directory p.name).mono (by simp [entryNames])

/-- The entries of a publication are free where the place is left out. -/
theorem free_without (h : SetAside p base fs r old entries) {k : String} (hk : k ∈ p.entryNames) :
    (base.erase (r ++ [p.name])).node? (r ++ [k]) = none := by
  rw [FileSystem.node?_erase_entry h.reaches_name.opens.directory]
  split
  · rfl
  · rename_i hne
    simp only [entryNames, List.mem_cons, hne, List.not_mem_nil, or_false] at hk
    rcases hk with rfl | rfl
    · exact h.free_staging
    · exact h.free_aside

/-- Whatever is done to the entries of a publication, the rest is still seen. -/
theorem extends_without (h : SetAside p base fs r old entries) (hw : Within r p.entryNames base fs') :
    Extends (base.erase (r ++ [p.name])) fs' :=
  (h.within_without.symm.trans hw).extends_of_free fun _ hk => h.free_without hk

theorem opens_of_without (h : SetAside p base fs r old entries) (hw : Within r p.entryNames base fs')
    (ho : (base.erase (r ++ [p.name])).Opens p.root r) : fs'.Opens p.root r :=
  ho.mono (h.extends_without hw) (hw.working.trans (FileSystem.working_erase _ _).symm)

/-- **If anything can be placed between the renames, the root is found without the place of the shard directory.** -/
theorem opens_without {k : String} {t : Target} (h : SetAside p base fs r old entries) (hk : IsEntryName k)
    (hp : fs.place (p.root.entry k) = .ok t) : (base.erase (r ++ [p.name])).Opens p.root r := by
  have hthins : Thins base (base.erase (r ++ [p.name])) fs := by
    refine Within.thins h.within_without h.within fun a ha => ?_
    simp only [entryNames, List.mem_cons, List.not_mem_nil, or_false] at ha
    rcases ha with rfl | rfl | rfl
    · exact Or.inl h.free_staging
    · exact Or.inl h.free_aside
    · exact Or.inr h.gone
  exact h.reaches_name.opens.of_place (FileSystem.working_erase _ _) h.within.working
    (h.extends_without h.within) hthins hk hp

end SetAside

/-! ## Success -/

/-- **A file system in which the shard directory is published**, beside the one before the staging directory was made.
-/
structure Published (p : Publication) (base fs : FileSystem) (r : Location) : Prop where
  reaches : fs.Reaches p.root p.name r
  within : Within r p.entryNames base fs
  published : fs.node? (r ++ [p.name]) = some (.directory p.complete)
  unstaged : fs.node? (r ++ [p.stagingName]) = none

/-- The place was free. -/
theorem Staged.published (h : Staged p base fs r p.complete) (hn : p.WellNamed) (hfree : fs.exists? p.target = false)
    (hr : fs.rename p.staging p.target = .ok after) : Published p base after r := by
  obtain ⟨r', x, hrs, hrn, hx, hobstacle, rfl⟩ := FileSystem.rename_ok hn.staging hn.name hn.staging_ne hr
  obtain rfl := h.opens.unique hrs.opens
  rw [h.staged] at hx
  cases hx
  have hd := h.opens.directory
  have hname : fs.node? (r ++ [p.name]) = none := by
    cases hy : fs.node? (r ++ [p.name]) with
    | none => rfl
    | some y =>
      -- an empty directory would give way, but it would have been seen
      have hnone := hobstacle y hy
      cases y with
      | file content => cases hnone
      | link target => cases hnone
      | directory old =>
        have hfind := FileSystem.find_entry hn.name hrn hy (by simp [Node.shape])
        unfold FileSystem.exists? at hfree
        rw [target, hfind] at hfree
        cases hfree
  have hnode := FileSystem.node?_move_entry hd p.stagingName p.name (.directory p.complete)
  have hwithin :
      Within r [p.stagingName, p.name] base ((fs.erase (r ++ [p.stagingName])).put r p.name (.directory p.complete)) :=
    (h.within.mono (by simp)).trans (Within.move hd _ _ _)
  have hbase : base.node? (r ++ [p.name]) = none := by rw [← h.beside hn.staging_ne.symm, hname]
  have hextends : Extends base ((fs.erase (r ++ [p.stagingName])).put r p.name (.directory p.complete)) :=
    hwithin.extends_of_free (by simp [h.free, hbase])
  constructor
  · exact ⟨hrn.check, h.opens_base.mono hextends hwithin.working, hrn.short⟩
  · exact hwithin.mono (by simp [entryNames])
  · rw [hnode, if_pos rfl]
  · rw [hnode, if_neg hn.staging_ne, if_pos rfl]

/-- What was at the place lies aside. -/
theorem SetAside.published {old : Node} (h : SetAside p base fs r old p.complete) (hn : p.WellNamed)
    (hr : fs.rename p.staging p.target = .ok after) :
    (base.erase (r ++ [p.name])).Opens p.root r ∧ Published p base after r := by
  obtain ⟨r', x, hrs, hrn, hx, -, rfl⟩ := FileSystem.rename_ok hn.staging hn.name hn.staging_ne hr
  have hwithout := h.opens_without hn.name (hrn.place hn.name)
  have ho := h.opens_of_without h.within hwithout
  obtain rfl := ho.unique hrs.opens
  rw [h.staged] at hx
  cases hx
  have hd := ho.directory
  have hnode := FileSystem.node?_move_entry hd p.stagingName p.name (.directory p.complete)
  have hwithin : Within r p.entryNames base ((fs.erase (r ++ [p.stagingName])).put r p.name (.directory p.complete)) :=
    h.within.trans ((Within.move hd _ _ _).mono (by simp [entryNames]))
  refine ⟨hwithout, ?_⟩
  constructor
  · exact ⟨hrn.check, h.opens_of_without hwithin hwithout, hrn.short⟩
  · exact hwithin
  · rw [hnode, if_pos rfl]
  · rw [hnode, if_neg hn.staging_ne, if_pos rfl]

/-- Whether the directory that was moved aside can be removed or not makes no difference. -/
theorem SetAside.published_removed {old : Node} (h : SetAside p base fs r old p.complete) (hn : p.WellNamed)
    (hr : fs.rename p.staging p.target = .ok fs') (hd : fs'.removeTree p.aside = .ok after) :
    Published p base after r := by
  obtain ⟨hwithout, hp⟩ := h.published hn hr
  obtain ⟨r', hra, rfl⟩ := FileSystem.removeTree_ok hn.aside hd
  obtain rfl := hp.reaches.opens.unique hra.opens
  have hdir := hp.reaches.opens.directory
  have hwithin : Within r p.entryNames base (fs'.erase (r ++ [asideName p.stagingName])) :=
    hp.within.trans ((Within.erase hdir _).mono (by simp [entryNames]))
  have hnode : ∀ k, (fs'.erase (r ++ [asideName p.stagingName])).node? (r ++ [k]) = _ :=
    FileSystem.node?_erase_entry hdir
  constructor
  · exact ⟨hp.reaches.check, h.opens_of_without hwithin hwithout, hp.reaches.short⟩
  · exact hwithin
  · rw [hnode, if_neg hn.aside_ne.symm, hp.published]
  · rw [hnode, if_neg hn.aside_ne_staging.symm, hp.unstaged]

/-- **A publication that succeeds** leaves the assembled directory at its place. -/
theorem published_of_run (hn : p.WellNamed) (ha : Absent (p.ready fs) p.aside)
    (h : p.run refused fs = (after, .ok ())) :
    ∃ r, Published p (p.ready fs) after r := by
  obtain ⟨assembled, swapped, hassembly, hswap, hafter⟩ := run_ok h
  obtain ⟨r, hs⟩ := assembly_ok hn hassembly
  refine ⟨r, ?_⟩
  cases hocc : assembled.exists? p.target with
  | false =>
    rw [hocc] at hswap hafter
    obtain ⟨fs₁, h₁, h₂⟩ := Step.runAll_cons_ok hswap
    cases h₂
    rw [hafter]
    exact hs.published hn hocc (Call.settle_ok.mp (Call.attempt_ok h₁).2)
  | true =>
    rw [hocc] at hswap hafter
    obtain ⟨fs₁, h₁, h₂⟩ := Step.runAll_cons_ok hswap
    obtain ⟨fs₂, h₂, h₃⟩ := Step.runAll_cons_ok h₂
    cases h₃
    obtain ⟨old, hset⟩ := hs.setAside hn ha (Call.settle_ok.mp (Call.attempt_ok h₁).2)
    have hrename := Call.settle_ok.mp (Call.attempt_ok h₂).2
    have hremove : after = (Call.attempt refused swapped (.removeTree p.aside)).1 := hafter
    rcases hc : Call.attempt refused swapped (.removeTree p.aside) with ⟨fs₃, e | ⟨⟩⟩
    · rw [hremove, hc, Call.attempt_error (by simp) hc]
      exact (hset.published hn hrename).2
    · rw [hremove, hc]
      exact hset.published_removed hn hrename (Call.settle_ok.mp (Call.attempt_ok hc).2)

end Publication

end GraphDisk
