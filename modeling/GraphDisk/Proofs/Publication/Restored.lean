import GraphDisk.Proofs.Publication.Failure

/-!
# Nothing has changed but directories around the root

`Publication.Restored` is what is promised of a publication that fails: what was at the place of the shard directory is
there as before, nothing lies under the staging name or aside, and otherwise only directories on the way to the root are
new. A publication that was abandoned keeps the promise (`Abandoned.restored`).
-/

namespace GraphDisk

open FileSystem (Within Extends MoreDirectories)

namespace Publication

variable {p : Publication} {refused : Refusals} {fs base after : FileSystem} {r : Location}
  {calls : List Call} {q : Path}
  {x : String}

/-- **Everything is as before**, but for directories on the way to the root. -/
structure Restored (p : Publication) (before after : FileSystem) : Prop where
  directories : MoreDirectories p.root.chain before after
  place : ∀ t, before.place p.target = .ok t → after.place p.target = .ok t
  staging : Absent after p.staging
  aside : Absent after p.aside

theorem more_ready (p : Publication) (fs : FileSystem) : MoreDirectories p.root.chain fs (p.ready fs) :=
  MoreDirectories.of_makeDirectories fs p.root

/-- What is found is still found where there are more directories. -/
theorem Absent.of_more {paths : List Path} (h : MoreDirectories paths fs after) (ha : Absent after q) :
    Absent fs q := by
  intro l x hx
  have hc := FileSystem.place_carried h.kept h.working hx
  generalize hy : after.place q = t at hc
  cases hc with
  | found _ _ _ => exact ha _ _ hy

/-- If something can be placed in the root, the root is there. -/
theorem ready_of_place {t : Target} (hx : IsEntryName x) (h : fs.place (p.root.entry x) = .ok t) : p.ready fs = fs := by
  obtain ⟨r, hr, -⟩ := FileSystem.reaches_of_place hx h
  exact FileSystem.makeDirectories_of_opens hr.opens

section Unchanged

variable (hw : Within r [] base after) (ho : base.Opens p.root r)
include hw ho

theorem opens_of_unchanged : after.Opens p.root r := ho.mono (hw.extends_of_free (by simp)) hw.working

theorem place_of_unchanged {t : Target} (hx : IsEntryName x) (h : base.place (p.root.entry x) = .ok t) :
    after.place (p.root.entry x) = .ok t := by
  obtain ⟨r', hr, rfl⟩ := FileSystem.reaches_of_place hx h
  obtain rfl := ho.unique hr.opens
  have hreach : after.Reaches p.root x r := ⟨hr.check, opens_of_unchanged hw ho, hr.short⟩
  rw [hreach.place hx, FileSystem.targetAt, FileSystem.targetAt, hw.entry (by simp)]

theorem absent_of_unchanged (hx : IsEntryName x) (ha : Absent base (p.root.entry x)) :
    Absent after (p.root.entry x) := by
  intro l y hy
  obtain ⟨r', hr, -⟩ := FileSystem.reaches_of_place hx hy
  obtain rfl := (opens_of_unchanged hw ho).unique hr.opens
  have hreach : base.Reaches p.root x r := ⟨hr.check, ho, hr.short⟩
  have hfree := ha.free hreach hx
  rw [hr.place hx, FileSystem.targetAt_none (by rw [hw.entry (by simp), hfree])] at hy
  cases hy

end Unchanged

/-- **A publication that was abandoned leaves everything as it was before**, but for directories on the way to the root,
unless a call has failed that takes something back. -/
theorem Abandoned.restored (h : Abandoned p refused fs after calls) (hn : p.WellNamed)
    (hs : Absent (p.ready fs) p.staging)
    (ha : Absent (p.ready fs) p.aside) (hd : p.removal ∉ calls) (hr : p.restoration ∉ calls) : Restored p fs after := by
  have hmore := more_ready p fs
  rcases h.intact hn ha hd hr with rfl | rfl | ⟨r, ho, hw⟩
  · exact ⟨MoreDirectories.refl _ _, fun _ ht => ht, hs.of_more hmore, ha.of_more hmore⟩
  · refine ⟨hmore, fun t ht => ?_, hs, ha⟩
    rw [ready_of_place hn.name ht]
    exact ht
  · have hkept : MoreDirectories p.root.chain (p.ready fs) after :=
      ⟨hw.working, hw.extends_of_free (by simp), fun l s hl => Or.inl (by rw [← hw.shape l (by simp), hl])⟩
    constructor
    · exact hmore.trans hkept
    · intro t ht
      apply place_of_unchanged hw ho hn.name
      rw [ready_of_place hn.name ht]
      exact ht
    · exact absent_of_unchanged hw ho hn.staging hs
    · exact absent_of_unchanged hw ho hn.aside ha

end Publication

end GraphDisk
