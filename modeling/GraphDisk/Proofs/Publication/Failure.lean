import GraphDisk.Proofs.Publication.Swap

/-!
# Publications that fail

`Publication.run_error` says in one place how a publication can fail: before the staging directory was made, while it is
there, or between the two renames of the swap, when the directory that was there before lies aside. As long as the calls
that take things back do not fail, everything is then as it was once the root had been made (`Abandoned.intact`). They
do not fail by themselves if the path to the root does not lead through the place of the shard directory
(`Abandoned.undone`).
-/

namespace GraphDisk

open FileSystem (Within)

namespace Publication

variable {p : Publication} {refused : Refusals} {fs fs' base after : FileSystem} {r : Location} {entries : Directory}
  {fault : IoFault} {calls : List Call}

/-- The call that removes the staging directory. -/
def removal (p : Publication) : Call := .removeTree p.staging

/-- The call that moves a directory back that was moved aside. -/
def restoration (p : Publication) : Call := .rename p.aside p.target

/-- The path to the root does not need what is at the place of the shard directory. -/
def RootBeside (p : Publication) (fs : FileSystem) : Prop :=
  ∀ r, (p.ready fs).Opens p.root r → ((p.ready fs).erase (r ++ [p.name])).Opens p.root r

theorem rootBeside_of_free (hfree : ∀ r, (p.ready fs).Opens p.root r → (p.ready fs).node? (r ++ [p.name]) = none) :
    p.RootBeside fs := by
  intro r ho
  have hw := Within.erase ho.directory p.name
  exact ho.mono (hw.extends_of_free (by simpa using hfree r ho)) hw.working

/-! ## How a publication can fail -/

/-- **How a publication was abandoned**: the file system it leaves, and the calls that have failed. -/
inductive Abandoned (p : Publication) (refused : Refusals) (fs : FileSystem) : FileSystem → List Call → Prop
  /-- The root could not be made. -/
  | root {after : FileSystem} : after = fs ∨ after = p.ready fs → Abandoned p refused fs after [.makeDirectories p.root]
  /-- The staging directory could not be made. -/
  | staging : Abandoned p refused fs (p.ready fs) [.makeDirectory p.staging]
  /-- A call has failed while the staging directory was there. -/
  | staged {fs' : FileSystem} {r : Location} {entries : Directory} {c : Call} :
      Staged p (p.ready fs) fs' r entries → c ≠ p.removal → c ≠ p.restoration →
      Abandoned p refused fs (Call.attemptAll refused fs' [p.removal]) (c :: Call.failures refused fs' [p.removal])
  /-- The second rename has failed. -/
  | aside {fs' fs'' : FileSystem} {r : Location} :
      Staged p (p.ready fs) fs' r p.complete → fs'.rename p.target p.aside = .ok fs'' →
      Abandoned p refused fs (Call.attemptAll refused fs'' [p.restoration, p.removal])
        (.rename p.staging p.target :: Call.failures refused fs'' [p.restoration, p.removal])

theorem entry_ne {q : Path} {a b : String} (ha : IsEntryName a) (hb : IsEntryName b) (hab : a ≠ b) :
    q.entry a ≠ q.entry b := by
  intro h
  have hsteps : q.steps ++ [a] = q.steps ++ [b] := by
    rw [← Path.steps_entry ha.toIsSegment, h, Path.steps_entry hb.toIsSegment]
  exact hab (by simpa using hsteps)

theorem assembly_error (hn : p.WellNamed) (h : Step.runAll refused fs p.assembly = (after, .error fault)) :
    Abandoned p refused fs after (Step.failures refused fs p.assembly) := by
  unfold assembly at h ⊢
  rcases Step.runAll_cons_error h with ⟨fs₁, h₁, ha, hf₁⟩ | ⟨fs₁, h₁, h, hf₁⟩
  · rw [hf₁]
    have ha : after = fs₁ := ha
    subst ha
    rcases Call.attempt_cases refused fs (.makeDirectories p.root) with hc | hc
    · exact .root (Or.inl ((congrArg Prod.fst h₁).symm.trans hc))
    · exact .root (Or.inr ((congrArg Prod.fst h₁).symm.trans hc))
  have hroot : p.ready fs = fs₁ := congrArg Prod.fst (Call.attempt_ok h₁).2
  subst hroot
  rw [hf₁]
  rcases Step.runAll_cons_error h with ⟨fs₂, h₂, rfl, hf₂⟩ | ⟨fs₂, h₂, h, hf₂⟩
  · rw [hf₂]
    obtain rfl := Call.attempt_error (by simp) h₂
    exact .staging
  rw [hf₂]
  obtain ⟨r, hs⟩ := Staged.of_makeDirectory hn (Call.settle_ok.mp (Call.attempt_ok h₂).2)
  rcases Step.runAll_cons_error h with ⟨fs₃, h₃, rfl, hf₃⟩ | ⟨fs₃, h₃, h, hf₃⟩
  · rw [hf₃]
    obtain rfl := Call.attempt_error (by simp) h₃
    exact .staged hs (by simp [removal]) (by simp [restoration])
  rw [hf₃]
  have hs := hs.write hn isEntryName_partFileName (by simp) (Call.settle_ok.mp (Call.attempt_ok h₃).2)
  rcases Step.runAll_cons_error h with ⟨fs₄, h₄, rfl, hf₄⟩ | ⟨fs₄, h₄, h, hf₄⟩
  · rw [hf₄]
    obtain rfl := Call.attempt_error (by simp) h₄
    exact .staged hs (by simp [removal]) (by simp [restoration])
  · cases h

theorem swap_error (hn : p.WellNamed) (hs : Staged p (p.ready fs) fs' r p.complete) {occupied : Bool}
    (h : Step.runAll refused fs' (p.swap occupied) = (after, .error fault)) :
    Abandoned p refused fs after (Step.failures refused fs' (p.swap occupied)) := by
  have htarget : p.target ≠ p.aside := entry_ne hn.name hn.aside hn.aside_ne.symm
  have hstaging : p.staging ≠ p.aside := entry_ne hn.staging hn.aside hn.aside_ne_staging.symm
  cases occupied with
  | false =>
    unfold swap at h ⊢
    rw [if_neg (by simp)] at h ⊢
    rcases Step.runAll_cons_error h with ⟨fs₁, h₁, rfl, hf₁⟩ | ⟨fs₁, h₁, h, hf₁⟩
    · rw [hf₁]
      obtain rfl := Call.attempt_error (by simp) h₁
      exact .staged hs (by simp [removal]) (by simp [restoration, hstaging])
    · cases h
  | true =>
    unfold swap at h ⊢
    rw [if_pos rfl] at h ⊢
    rcases Step.runAll_cons_error h with ⟨fs₁, h₁, rfl, hf₁⟩ | ⟨fs₁, h₁, h, hf₁⟩
    · rw [hf₁]
      obtain rfl := Call.attempt_error (by simp) h₁
      exact .staged hs (by simp [removal]) (by simp [restoration, htarget])
    rw [hf₁]
    have hmoved := Call.settle_ok.mp (Call.attempt_ok h₁).2
    rcases Step.runAll_cons_error h with ⟨fs₂, h₂, rfl, hf₂⟩ | ⟨fs₂, h₂, h, hf₂⟩
    · rw [hf₂]
      obtain rfl := Call.attempt_error (by simp) h₂
      exact .aside hs hmoved
    · cases h

/-- **Every way in which a publication fails.** -/
theorem abandoned_of_run (hn : p.WellNamed) (h : p.run refused fs = (after, .error fault)) :
    Abandoned p refused fs after (p.failures refused fs) := by
  rcases run_error h with ⟨h, hf⟩ | ⟨assembled, ha, h, hf⟩
  · rw [hf]
    exact assembly_error hn h
  · rw [hf]
    obtain ⟨r, hs⟩ := assembly_ok hn ha
    exact swap_error hn hs h

/-! ## What is left of it -/

/-- If the directory that was moved aside is moved back and the staging directory is removed, everything is as before.
-/
theorem SetAside.restored {old : Node} (h : SetAside p base fs r old entries) (hn : p.WellNamed)
    (hr : fs.rename p.aside p.target = .ok fs') (hd : fs'.removeTree p.staging = .ok after) :
    Within r [] base after := by
  obtain ⟨r', x, hra, hrn, hx, -, rfl⟩ := FileSystem.rename_ok hn.aside hn.name hn.aside_ne hr
  have hwithout := h.opens_without hn.name (hrn.place hn.name)
  have ho := h.opens_of_without h.within hwithout
  obtain rfl := ho.unique hra.opens
  rw [h.moved] at hx
  cases hx
  have hdir := ho.directory
  have hwithin : Within r p.entryNames base ((fs.erase (r ++ [asideName p.stagingName])).put r p.name old) :=
    h.within.trans ((Within.move hdir _ _ old).mono (by simp [entryNames]))
  have ho' := h.opens_of_without hwithin hwithout
  obtain ⟨r', hrs, rfl⟩ := FileSystem.removeTree_ok hn.staging hd
  obtain rfl := ho'.unique hrs.opens
  have hnode := FileSystem.node?_move_entry hdir (asideName p.stagingName) p.name old
  have hw := hwithin.trans ((Within.erase ho'.directory p.stagingName).mono (by simp [entryNames]))
  refine ((hw.forget ?_).forget ?_).forget ?_
  · rw [FileSystem.node?_erase_entry ho'.directory, if_pos rfl, h.free_staging]
  · rw [FileSystem.node?_erase_entry ho'.directory, if_neg hn.aside_ne_staging, hnode, if_neg hn.aside_ne,
      if_pos rfl, h.free_aside]
  · rw [FileSystem.node?_erase_entry ho'.directory, if_neg hn.staging_ne.symm, hnode, if_pos rfl, h.old_node]

/-- What is left of a publication that was taken back: a file system in which everything is as in the given one. -/
def Intact (p : Publication) (base after : FileSystem) : Prop :=
  after = base ∨ ∃ r, base.Opens p.root r ∧ Within r [] base after

/-- **A publication that was abandoned leaves everything as it was**, once the root had been made, unless a call has
failed that takes something back. -/
theorem Abandoned.intact (h : Abandoned p refused fs after calls) (hn : p.WellNamed) (ha : Absent (p.ready fs) p.aside)
    (hd : p.removal ∉ calls) (hr : p.restoration ∉ calls) : after = fs ∨ p.Intact (p.ready fs) after := by
  cases h with
  | root h =>
    rcases h with h | h
    · exact Or.inl h
    · exact Or.inr (Or.inl h)
  | staging => exact Or.inr (Or.inl rfl)
  | @staged fs' r entries c hs _ _ =>
    obtain ⟨after, hp, -, hafter⟩ := Call.attemptAll_cons fun hm => hd (List.mem_cons_of_mem _ hm)
    rw [hafter]
    exact Or.inr (Or.inr ⟨r, hs.opens_base, hs.removed hn (Call.settle_ok.mp hp)⟩)
  | @aside fs' fs'' r hs hmoved =>
    obtain ⟨old, h⟩ := hs.setAside hn ha hmoved
    obtain ⟨fs₁, hp₁, hf₁, hafter₁⟩ := Call.attemptAll_cons fun hm => hr (List.mem_cons_of_mem _ hm)
    rw [hf₁] at hd
    obtain ⟨fs₂, hp₂, -, hafter₂⟩ := Call.attemptAll_cons fun hm => hd (List.mem_cons_of_mem _ hm)
    rw [hafter₁, hafter₂]
    exact Or.inr (Or.inr ⟨r, hs.opens_base, h.restored hn (Call.settle_ok.mp hp₁) (Call.settle_ok.mp hp₂)⟩)

/-! ## The calls that take something back -/

theorem Staged.removal_ok (h : Staged p base fs r entries) (hn : p.WellNamed) (hd : refused p.removal = none) :
    Call.failures refused fs [p.removal] = [] := by
  have hr := FileSystem.removeTree_entry hn.staging h.reaches_self h.staged
  rw [Call.failures_cons_of_ok hd (Call.settle_ok.mpr hr)]
  rfl

theorem SetAside.undo_ok {old : Node} (h : SetAside p base fs r old entries) (hn : p.WellNamed)
    (ho : (base.erase (r ++ [p.name])).Opens p.root r) (hd : refused p.removal = none)
    (hr : refused p.restoration = none) : Call.failures refused fs [p.restoration, p.removal] = [] := by
  have hopens := h.opens_of_without h.within ho
  have hdir := hopens.directory
  have hrestored := FileSystem.rename_entry hn.aside hn.name ⟨h.reaches_aside.check, hopens, h.reaches_aside.short⟩
    ⟨h.reaches_name.check, hopens, h.reaches_name.short⟩ h.moved h.gone
  rw [Call.failures_cons_of_ok hr (Call.settle_ok.mpr hrestored)]
  have hopens' : ((fs.erase (r ++ [asideName p.stagingName])).put r p.name old).Opens p.root r :=
    h.opens_of_without (h.within.trans ((Within.move hdir _ _ old).mono (by simp [entryNames]))) ho
  have hstaged : ((fs.erase (r ++ [asideName p.stagingName])).put r p.name old).node? (r ++ [p.stagingName]) =
      some (.directory entries) := by
    rw [FileSystem.node?_move_entry hdir, if_neg hn.staging_ne, if_neg hn.aside_ne_staging.symm, h.staged]
  have hremoved :=
    FileSystem.removeTree_entry hn.staging ⟨h.reaches_staging.check, hopens', h.reaches_staging.short⟩ hstaged
  rw [Call.failures_cons_of_ok hd (Call.settle_ok.mpr hremoved)]
  rfl

/-- **What takes things back does not fail by itself** if the path to the root does not need the place. -/
theorem Abandoned.undone (h : Abandoned p refused fs after calls) (hn : p.WellNamed) (ha : Absent (p.ready fs) p.aside)
    (ho : p.RootBeside fs) (hd : refused p.removal = none) (hr : refused p.restoration = none) :
    p.removal ∉ calls ∧ p.restoration ∉ calls := by
  cases h with
  | root _ => simp [removal, restoration]
  | staging => simp [removal, restoration]
  | staged hs hcd hcr =>
    rw [hs.removal_ok hn hd]
    simp [hcd.symm, hcr.symm]
  | aside hs hmoved =>
    obtain ⟨old, h⟩ := hs.setAside hn ha hmoved
    rw [h.undo_ok hn (ho _ hs.opens_base) hd hr]
    have hstaging : p.aside ≠ p.staging := entry_ne hn.aside hn.staging hn.aside_ne_staging
    simp [removal, restoration, hstaging]

end Publication

end GraphDisk
