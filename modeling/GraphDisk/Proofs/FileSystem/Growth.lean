import GraphDisk.Proofs.FileSystem.MakeDirectories
import GraphDisk.Proofs.Outcome

/-!
# Directories made one after the other

Making a directory with everything around it makes directories one at a time, so between them the file system is any of
several. `FileSystem.Grows` relates a file system to those in which some more of the directories that the given paths
name have been made; `FileSystem.makeDirectories` gives one of them, also when it fails (`grows_makeDirectories`). A
node changes on the way only if one of the directories is made there or below (`Grows.node`).
-/

namespace GraphDisk

namespace FileSystem

variable {fs fs' fs'' top : FileSystem} {paths : List Path} {p : Path} {r l : Location} {a : String}

/-- **Directories are made one after the other**, each by one of the given paths. -/
inductive Grows (paths : List Path) (fs : FileSystem) : FileSystem → Prop
  | refl : Grows paths fs fs
  | make {mid after : FileSystem} {p : Path} : Grows paths fs mid → p ∈ paths → mid.makeDirectory p = .ok after →
      Grows paths fs after

namespace Grows

theorem trans (h : Grows paths fs fs') (h' : Grows paths fs' fs'') : Grows paths fs fs'' := by
  induction h' with
  | refl => exact h
  | make _ hp hm ih => exact .make ih hp hm

theorem mono {more : List Path} (h : Grows paths fs fs') (hp : paths ⊆ more) : Grows more fs fs' := by
  induction h with
  | refl => exact .refl
  | make _ hq hm ih => exact .make ih (hp hq) hm

theorem moreDirectories (h : Grows paths fs fs') : MoreDirectories paths fs fs' := by
  induction h with
  | refl => exact .refl paths fs
  | make _ hp hm ih => exact ih.trans ((MoreDirectories.of_makeDirectory hm).mono (by simpa using hp))

end Grows

/-! ## Making a directory with everything around it -/

theorem grows_ensureDirectory (fs : FileSystem) (p : Path) : Grows [p] fs (fs.ensureDirectory p).1 := by
  unfold ensureDirectory
  cases h : fs.makeDirectory p with
  | ok after => exact .make .refl List.mem_cons_self h
  | error fault =>
    simp only
    split <;> exact .refl

theorem grows_ensureChain : ∀ (paths : List Path) (fs : FileSystem), Grows paths fs (ensureChain paths fs).1
  | [], fs => .refl
  | p :: around, fs => by
    unfold ensureChain
    cases h : fs.makeDirectory p with
    | ok after => exact .make .refl List.mem_cons_self h
    | error fault =>
      have hrest := (grows_ensureChain around fs).mono (List.subset_cons_self p around)
      cases fault with
      | notFound =>
        simp only
        rcases hc : ensureChain around fs with ⟨after, _ | u⟩
        · rw [hc] at hrest; exact hrest
        · rw [hc] at hrest
          exact hrest.trans ((grows_ensureDirectory after p).mono (by simp))
      | _ => simp only; split <;> exact .refl

/-- **Making a directory with everything around it** makes directories one after the other, also if it fails. -/
theorem grows_makeDirectories (fs : FileSystem) (p : Path) : Grows p.chain fs (fs.makeDirectories p).1 :=
  grows_ensureChain p.chain fs

/-! ## Nodes that do not change -/

theorem makeDirectory_eq_ok (h : fs.makeDirectory p = .ok fs') :
    ∃ r a, fs.place p = .ok (.free r a) ∧ fs' = fs.put r a (.directory []) := by
  unfold makeDirectory at h
  obtain ⟨t, ht, h⟩ := bind_eq_ok.mp h
  cases t with
  | found _ _ => cases h
  | free r a =>
    cases h
    exact ⟨r, a, ht, rfl⟩

/-- If nothing is new, nothing has been made. -/
theorem Grows.eq_of_extends (h : Grows paths fs fs') (he : Extends fs' fs) : fs' = fs := by
  cases h with
  | refl => rfl
  | make hmid _ hm =>
    obtain ⟨r, a, hplace, rfl⟩ := makeDirectory_eq_ok hm
    obtain ⟨hd, hfree⟩ := place_free hplace
    have hnew := he (r ++ [a]) .directory (shape?_of_node? (node?_put_self hd))
    have hold := hmid.moreDirectories.kept _ _ hnew
    rw [shape?, hfree] at hold
    cases hold

/-- A node changes by a new directory only if the directory is put there or below. -/
theorem node?_put_free (hd : fs.shape? r = some .directory) (hfree : fs.node? (r ++ [a]) = none)
    (hl : ¬ l <+: r ++ [a]) : (fs.put r a (.directory [])).node? l = fs.node? l := by
  by_cases hp : r ++ [a] <+: l
  · obtain ⟨rest, rfl⟩ := hp
    cases rest with
    | nil => exact absurd (by simp) hl
    | cons k rest =>
      rw [node?_append fs, hfree, List.append_assoc, List.singleton_append, node?_put_append hd]
      rfl
  · exact node?_put hd hp fun h => hl (h.trans (List.prefix_append _ _))

/-- **A node stays as it is** if none of the directories that the paths name in the end lies there or below. -/
theorem Grows.node (h : Grows paths fs fs') (ht : Grows paths fs' top)
    (hl : ∀ p ∈ paths, ∀ l' x, top.place p = .ok (.found l' x) → ¬ l <+: l') : fs'.node? l = fs.node? l := by
  induction h with
  | refl => rfl
  | @make mid after p hmid hp hm ih =>
    have hgrown : Grows paths mid top := (Grows.make .refl hp hm).trans ht
    obtain ⟨r, a, hplace, rfl⟩ := makeDirectory_eq_ok hm
    obtain ⟨hd, hfree⟩ := place_free hplace
    have hmade : (mid.put r a (.directory [])).shape? (r ++ [a]) = some .directory :=
      shape?_of_node? (node?_put_self hd)
    have hthere := ht.moreDirectories.kept _ _ hmade
    have hmore := hgrown.moreDirectories
    obtain ⟨y, hy⟩ := place_made hmore.kept hmore.working hplace (node?_of_directory hthere) rfl
    rw [node?_put_free hd hfree (hl p hp _ y hy), ih hgrown]

end FileSystem

end GraphDisk
