import GraphDisk.Proofs.FileSystem.Calls
import GraphDisk.Proofs.FileSystem.MakeDirectories

/-!
# A file that was written is found

Whether a file can be written does not depend on what is written (`FileSystem.writeFile_congr`), and once it is written
it is found by the same path, whatever links the path follows (`FileSystem.find_writeFile`). On the way there are
directories and links only, and none of them is changed by writing a file.
-/

namespace GraphDisk

namespace FileSystem

variable {fs fs' : FileSystem} {p : Path} {content : Content} {loc : Location} {n : Nat} {l : Location} {t : Target}

/-- Where a file is put if it is written to what a path leads to. -/
inductive Writable : Target → Location → Prop
  | over {loc : Location} {old : Content} : Writable (.found loc (.file old)) loc
  | new {l : Location} {name : String} : Writable (.free l name) (l ++ [name])

/-- Directories and links are where they were. -/
def Keeps (fs fs' : FileSystem) : Prop := ∀ l s, (∀ c, s ≠ .file c) → fs.shape? l = some s → fs'.shape? l = some s

theorem keeps_put {name : String} (hd : fs.shape? l = some .directory)
    (hfile : ∀ x, fs.node? (l ++ [name]) = some x → x.isFile = true) (content : Content) :
    Keeps fs (fs.put l name (.file content)) := by
  intro k s hs hk
  by_cases hp : l ++ [name] <+: k
  · -- there is nothing below the place of a file
    exfalso
    obtain ⟨rest, rfl⟩ := hp
    rw [shape?, node?_append] at hk
    cases hx : fs.node? (l ++ [name]) with
    | none => simp [hx] at hk
    | some x =>
      have hx' := hfile x hx
      cases x with
      | file old =>
        cases rest with
        | nil =>
          simp only [hx, Option.bind_some, Node.at?_nil, Option.map_some, Option.some.injEq] at hk
          exact hs old hk.symm
        | cons k rest => simp [hx, Node.at?_cons_of_ne (n := .file old) (by simp [Node.shape])] at hk
      | link target => cases hx'
      | directory entries => cases hx'
  · rw [shape?_put hd hp, hk]

/-- The walk to the place of a file leads to the file once it is there. -/
theorem walk_written (hk : Keeps fs fs') (hfile : fs'.node? loc = some (.file content)) (ht : Writable t loc) (n : Nat)
    (l : Location) : ∀ steps : List String, fs.shape? l = some .directory → fs.walk .write n l steps = .ok t →
      fs'.walk (.look true) n l steps = .ok (.found loc (.file content))
  | [], _, hw => by
    rw [walk_nil] at hw
    cases hw
    cases ht
  | name :: rest, hd, hw => by
    by_cases hdot : name = "." ∨ name = ""
    · rw [walk_stay hdot] at hw ⊢
      exact walk_written hk hfile ht n l rest hd hw
    by_cases hup : name = ".."
    · subst hup
      rw [walk_up] at hw ⊢
      exact walk_written hk hfile ht n l.dropLast rest (shape?_dropLast hd) hw
    by_cases hp : Purpose.write = .write ∧ rest = [""]
    · rw [walk_eq, advance, if_neg hdot, if_neg hup, if_pos hp] at hw
      cases hw
    by_cases hlong : maxNameSize < name.utf8ByteSize
    · rw [walk_long hlong hp] at hw
      cases hw
    have hstep : IsStep name := ⟨fun e => hdot (Or.inr e), fun e => hdot (Or.inl e), hup, Nat.not_lt.mp hlong⟩
    rw [walk_step hstep hp] at hw
    rw [walk_step hstep (by simp)]
    cases hx : fs.node? (l ++ [name]) with
    | none =>
      rw [hx] at hw
      by_cases hr : rest = []
      · simp only [hr, if_true] at hw
        cases hw
        cases ht
        simp [hfile, hr]
      · simp [hr] at hw
    | some x =>
      rw [hx] at hw
      cases x with
      | file old =>
        by_cases hr : rest = []
        · simp only [hr, if_true] at hw
          cases hw
          cases ht
          simp [hfile, hr]
        · simp [hr] at hw
      | directory entries =>
        have hshape : fs.shape? (l ++ [name]) = some .directory := shape?_of_node? hx
        rw [node?_of_directory (hk _ _ (by simp) hshape)]
        exact walk_written hk hfile ht n (l ++ [name]) rest hshape hw
      | link target =>
        rw [node?_of_link (hk _ (.link target) (by simp) (shape?_of_node? hx))]
        simp only [Purpose.follows, Bool.true_eq_false, and_false, if_false] at hw ⊢
        cases n with
        | zero => cases hw
        | succ n =>
          exact walk_written hk hfile ht n (linkStart target l) (target.lookupSteps ++ rest)
            (shape?_linkStart target hd) hw
termination_by steps => (n, steps.length)

theorem placeFile_eq_ok (h : fs.placeFile p = .ok t) : ∃ here, p.check = .ok () ∧ fs.start p = .ok here ∧
    fs.walk .write maxLinks here p.lookupSteps = .ok t := by
  unfold placeFile at h
  cases hc : p.check with
  | error e =>
    rw [hc] at h
    cases h
  | ok u =>
    cases hs : fs.start p with
    | error e =>
      rw [hc, hs] at h
      cases h
    | ok here =>
      rw [hc, hs] at h
      exact ⟨here, rfl, rfl, h⟩

/-- **Where a file is written** does not depend on what is written. -/
theorem writeFile_congr (h : fs.writeFile p content = .ok fs') :
    ∃ l name t, fs.placeFile p = .ok t ∧ Writable t (l ++ [name]) ∧
    fs.shape? l = some .directory ∧ (∀ x, fs.node? (l ++ [name]) = some x → x.isFile = true) ∧
    ∀ content', fs.writeFile p content' = .ok (fs.put l name (.file content')) := by
  unfold writeFile at h ⊢
  cases ht : fs.placeFile p with
  | error e =>
    rw [ht] at h
    cases h
  | ok t =>
    rw [ht] at h
    obtain ⟨here, -, hs, hw⟩ := placeFile_eq_ok ht
    have hcarried := walk_carried (Extends.refl fs) _ _ _ (start_directory hs) hw
    rw [hw] at hcarried
    cases t with
    | free l name =>
      have hfree : fs.shape? l = some .directory ∧ fs.node? (l ++ [name]) = none := by
        cases hcarried with
        | free hd hn _ => exact ⟨hd, hn⟩
        | taken hd hn _ _ => exact ⟨hd, hn⟩
      refine ⟨l, name, _, rfl, .new, hfree.1, ?_, fun content' => rfl⟩
      intro x hx
      rw [hfree.2] at hx
      cases hx
    | found location node =>
      cases node with
      | link target => cases h
      | directory entries => cases h
      | file old =>
        have hnode : fs.node? location = some (.file old) := by
          cases hcarried with
          | found hx _ _ => exact hx
        rcases List.eq_nil_or_concat location with rfl | ⟨l, name, rfl⟩
        · cases hnode
        rw [List.concat_eq_append] at *
        refine ⟨l, name, _, rfl, .over, shape?_of_append hnode, ?_, fun content' => ?_⟩
        · intro x hx
          rw [hnode] at hx
          cases hx
          rfl
        · simp only [bind, Except.bind, List.getLast?_concat, List.dropLast_concat]
          rfl

/-- Why a file cannot be written does not depend on what is written either. -/
theorem writeFile_error {fault : IoFault} (h : fs.writeFile p content = .error fault) (content' : Content) :
    fs.writeFile p content' = .error fault := by
  unfold writeFile at h ⊢
  cases ht : fs.placeFile p with
  | error e =>
    rw [ht] at h
    exact h
  | ok t =>
    rw [ht] at h
    cases t with
    | free l name => cases h
    | found location node =>
      cases node with
      | link target => exact h
      | directory entries => exact h
      | file old =>
        cases hl : location.getLast? with
        | none =>
          simp only [bind, Except.bind, hl] at h ⊢
          exact h
        | some name =>
          simp only [bind, Except.bind, hl] at h
          cases h

/-- **A file that was written is found.** -/
theorem find_writeFile (h : fs.writeFile p content = .ok fs') : fs'.find p = .ok (.file content) := by
  obtain ⟨l, name, t, hplace, hwritable, hd, hfile, hall⟩ := writeFile_congr h
  rw [hall] at h
  cases h
  obtain ⟨here, hc, hs, hw⟩ := placeFile_eq_ok hplace
  have hkeeps := keeps_put hd hfile content
  have hstart : (fs.put l name (.file content)).start p = .ok here :=
    start_of_directory (working_put fs l name _) hs (hkeeps _ _ (by simp) (start_directory hs))
  have hwalk := walk_written hkeeps (node?_put_self hd) hwritable maxLinks here p.lookupSteps (start_directory hs) hw
  unfold find lookup
  rw [hc, hstart]
  simp only [bind, Except.bind, hwalk]
  rfl

/-- Where one content can be written, so can any other. -/
theorem exists_writeFile (h : fs.writeFile p content = .ok fs') (content' : Content) :
    ∃ after, fs.writeFile p content' = .ok after ∧ after.find p = .ok (.file content') := by
  obtain ⟨l, name, -, -, -, -, -, hall⟩ := writeFile_congr h
  exact ⟨_, hall content', find_writeFile (hall content')⟩

end FileSystem

end GraphDisk
