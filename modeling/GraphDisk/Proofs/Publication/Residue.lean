import GraphDisk.Proofs.Publication.Swap

/-!
# What a publication leaves behind

A publication that succeeds without refused calls changes the place of the shard directory and no other entry of the
root, unless a regular file was at the place (`Publication.tidy_of_run`). A regular file is moved aside like a
directory, but what removes the directory that was moved aside leaves files alone, so the file stays there for good. A
second publication finds a directory at the place, and leaves what it finds aside (`Tidy.trans`).
-/

namespace GraphDisk

open FileSystem (Within)

namespace Publication

variable {p : Publication} {fs fs' base after later : FileSystem} {r : Location} {entries : Directory} {name : String}
  {old : Node}

/-- **What is left in a directory after one of its entries was replaced**: nothing but that entry has changed, or the
entry was a regular file, which now has a name aside that was free. -/
inductive Tidy (name : String) (r : Location) (base after : FileSystem) : Prop
  | clean : (∀ content, base.node? (r ++ [name]) ≠ some (.file content)) → Within r [name] base after →
      Tidy name r base after
  | file {content : Content} {staging : String} : base.node? (r ++ [name]) = some (.file content) →
      asideName staging ≠ name → base.node? (r ++ [asideName staging]) = none →
      after.node? (r ++ [asideName staging]) = some (.file content) → Within r [name, asideName staging] base after →
      Tidy name r base after

/-- Once there is a directory, replacing it again leaves nothing more. -/
theorem Tidy.trans (h : Tidy name r base after) (hd : after.node? (r ++ [name]) = some (.directory entries))
    (h' : Tidy name r after later) : Tidy name r base later := by
  cases h' with
  | file hfile => rw [hd] at hfile; cases hfile
  | clean _ hw' =>
    cases h with
    | clean hnot hw => exact .clean hnot (hw.trans hw')
    | file hfile hne hfree haside hw =>
      refine .file hfile hne hfree ?_ (hw.trans (hw'.mono (by simp)))
      rw [hw'.entry (by simpa using hne), haside]

/-! ## One publication -/

/-- The place was free. -/
theorem Staged.tidy (h : Staged p base fs r p.complete) (hn : p.WellNamed)
    (hr : fs.rename p.staging p.target = .ok after) :
    Tidy p.name r base after := by
  obtain ⟨r', x, hrs, -, hx, hobstacle, rfl⟩ := FileSystem.rename_ok hn.staging hn.name hn.staging_ne hr
  obtain rfl := h.opens.unique hrs.opens
  rw [h.staged] at hx
  cases hx
  have hd := h.opens.directory
  have hnode := FileSystem.node?_move_entry hd p.stagingName p.name (.directory p.complete)
  refine .clean (fun content hfile => ?_) (Within.forget (a := p.stagingName) ?_ ?_)
  · -- a directory cannot be moved onto a file
    have hnone := hobstacle (.file content) (by rw [h.beside hn.staging_ne.symm, hfile])
    cases hnone
  · exact (h.within.mono (by simp)).trans (Within.move hd _ _ _)
  · rw [hnode, if_neg hn.staging_ne, if_pos rfl, h.free]

/-- After the second rename, what was at the place still lies aside. -/
theorem SetAside.moved_published (h : SetAside p base fs r old p.complete) (hn : p.WellNamed)
    (hr : fs.rename p.staging p.target = .ok fs') : fs'.node? (r ++ [asideName p.stagingName]) = some old := by
  obtain ⟨hwithout, -⟩ := h.published hn hr
  have ho := h.opens_of_without h.within hwithout
  obtain ⟨r', x, hrs, -, -, -, rfl⟩ := FileSystem.rename_ok hn.staging hn.name hn.staging_ne hr
  obtain rfl := ho.unique hrs.opens
  rw [FileSystem.node?_move_entry ho.directory, if_neg hn.aside_ne, if_neg hn.aside_ne_staging, h.moved]

/-- What was moved aside is removed, unless it is a regular file. -/
theorem SetAside.tidy (h : SetAside p base fs r old p.complete) (hn : p.WellNamed)
    (hr : fs.rename p.staging p.target = .ok fs') :
    Published p base (Call.attemptAll .none fs' (p.cleanUp true)) r ∧
      Tidy p.name r base (Call.attemptAll .none fs' (p.cleanUp true)) := by
  obtain ⟨-, hp⟩ := h.published hn hr
  have hmoved := h.moved_published hn hr
  have hafter : Call.attemptAll .none fs' (p.cleanUp true) = (Call.settle fs' (fs'.removeTree p.aside)).1 := rfl
  have hremove := FileSystem.removeTree_eq hn.aside ⟨h.reaches_aside.check, hp.reaches.opens, h.reaches_aside.short⟩
  rw [hmoved] at hremove
  by_cases hfile : ∃ content, old = .file content
  · obtain ⟨content, rfl⟩ := hfile
    have hkept : Call.attemptAll .none fs' (p.cleanUp true) = fs' := by rw [hafter, aside, hremove]; rfl
    rw [hkept]
    refine ⟨hp, .file h.old_node hn.aside_ne h.free_aside hmoved ?_⟩
    refine (hp.within.forget ?_).mono (by simp)
    rw [hp.unstaged, h.free_staging]
  · have hremove : fs'.removeTree p.aside = .ok (fs'.erase (r ++ [asideName p.stagingName])) := by
      rw [aside, hremove]
      cases old with
      | file content => exact absurd ⟨content, rfl⟩ hfile
      | link target => rfl
      | directory entries => rfl
    have herased : Call.attemptAll .none fs' (p.cleanUp true) = fs'.erase (r ++ [asideName p.stagingName]) := by
      rw [hafter, hremove]; rfl
    rw [herased]
    have hp' := h.published_removed hn hr hremove
    refine ⟨hp', .clean (fun content hbase => hfile ⟨content, ?_⟩) ((hp'.within.forget ?_).forget ?_)⟩
    · rw [h.old_node] at hbase
      exact Option.some.inj hbase
    · rw [hp'.unstaged, h.free_staging]
    · rw [FileSystem.node?_erase_entry hp.reaches.opens.directory, if_pos rfl, h.free_aside]

/-- **A publication that succeeds without refused calls** leaves nothing but the shard directory, and aside a regular
file if one was at its place. -/
theorem tidy_of_run (hn : p.WellNamed) (ha : Absent (p.ready fs) p.aside) (h : p.run .none fs = (after, .ok ())) :
    ∃ r, (p.ready fs).Opens p.root r ∧ Published p (p.ready fs) after r ∧ Tidy p.name r (p.ready fs) after := by
  obtain ⟨assembled, swapped, hassembly, hswap, hafter⟩ := run_ok h
  obtain ⟨r, hs⟩ := assembly_ok hn hassembly
  refine ⟨r, hs.opens_base, ?_⟩
  cases hocc : assembled.exists? p.target with
  | false =>
    rw [hocc] at hswap hafter
    obtain ⟨fs₁, h₁, h₂⟩ := Step.runAll_cons_ok hswap
    cases h₂
    have hrename := Call.settle_ok.mp (Call.attempt_ok h₁).2
    rw [hafter]
    exact ⟨hs.published hn hocc hrename, hs.tidy hn hrename⟩
  | true =>
    rw [hocc] at hswap hafter
    obtain ⟨fs₁, h₁, h₂⟩ := Step.runAll_cons_ok hswap
    obtain ⟨fs₂, h₂, h₃⟩ := Step.runAll_cons_ok h₂
    cases h₃
    obtain ⟨old, hset⟩ := hs.setAside hn ha (Call.settle_ok.mp (Call.attempt_ok h₁).2)
    rw [hafter]
    exact hset.tidy hn (Call.settle_ok.mp (Call.attempt_ok h₂).2)

end Publication

end GraphDisk
