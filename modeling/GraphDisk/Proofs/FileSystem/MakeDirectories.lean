import GraphDisk.Proofs.FileSystem.Calls

/-!
# Making a directory with everything around it

Whether it fails halfway or not, `FileSystem.makeDirectories` adds directories to which the path or a path around it
leads, and changes nothing else (`MoreDirectories.of_makeDirectories`). Where the path leads to a directory already it
changes nothing at all (`makeDirectories_of_opens`).
-/

namespace GraphDisk

namespace FileSystem

variable {fs fs' fs'' : FileSystem} {q : Path} {r : Location} {a : String} {x : Node}

/-- **Some directories have been made, and nothing else has changed**: everything that was seen is still seen, and what
is new are directories to which the given paths lead. -/
structure MoreDirectories (paths : List Path) (before after : FileSystem) : Prop where
  working : after.working = before.working
  kept : Extends before after
  added : ∀ l s, after.shape? l = some s → before.shape? l = some s ∨
    s = .directory ∧ ∃ p ∈ paths, ∃ x, after.place p = .ok (.found l x)

/-- What is placed by a path in an extended file system. -/
theorem place_carried {p : Path} {t : Target} (he : Extends fs fs') (hw : fs'.working = fs.working)
    (h : fs.place p = .ok t) : Carried fs fs' t (fs'.place p) := by
  unfold place at h ⊢
  cases hc : p.check with
  | error e => rw [hc] at h; cases h
  | ok u =>
    cases hs : fs.start p with
    | error e => rw [hc, hs] at h; cases h
    | ok here =>
      rw [hc, hs] at h
      rw [start_mono he hw hs]
      exact walk_carried he maxLinks here p.steps (start_directory hs) h

theorem place_free {p : Path} (h : fs.place p = .ok (.free r a)) :
    fs.shape? r = some .directory ∧ fs.node? (r ++ [a]) = none := by
  have hc := place_carried (Extends.refl fs) rfl h
  rw [h] at hc
  cases hc with
  | free hd hn _ => exact ⟨hd, hn⟩
  | taken hd hn _ _ => exact ⟨hd, hn⟩

/-- A directory that was made is found by the path by which it was made. -/
theorem place_made {p : Path} (he : Extends fs fs') (hw : fs'.working = fs.working) (h : fs.place p = .ok (.free r a))
    (hx : fs'.node? (r ++ [a]) = some x) (hs : x.shape = .directory) :
    ∃ y, fs'.place p = .ok (.found (r ++ [a]) y) := by
  have hc := place_carried he hw h
  generalize fs'.place p = t at hc
  cases hc with
  | free _ _ hn => rw [hx] at hn; cases hn
  | made _ _ _ _ => exact ⟨_, rfl⟩
  | taken _ _ hy hd =>
    rw [hx] at hy; cases hy
    exact absurd hs hd

namespace MoreDirectories

variable {paths : List Path} {p : Path}

theorem refl (paths : List Path) (fs : FileSystem) : MoreDirectories paths fs fs :=
  ⟨rfl, Extends.refl fs, fun _ _ h => Or.inl h⟩

theorem trans (h : MoreDirectories paths fs fs') (h' : MoreDirectories paths fs' fs'') :
    MoreDirectories paths fs fs'' := by
  refine ⟨h'.working.trans h.working, h.kept.trans h'.kept, fun l s hs => ?_⟩
  rcases h'.added l s hs with hs | hs
  · rcases h.added l s hs with hs | ⟨hs, p, hp, x, hx⟩
    · exact Or.inl hs
    · have hc := place_carried h'.kept h'.working hx
      generalize hy : fs''.place p = t at hc
      cases hc with
      | found _ _ _ => exact Or.inr ⟨hs, p, hp, _, hy⟩
  · exact Or.inr hs

theorem mono {more : List Path} (h : MoreDirectories paths fs fs') (hp : paths ⊆ more) :
    MoreDirectories more fs fs' := by
  refine ⟨h.working, h.kept, fun l s hs => ?_⟩
  rcases h.added l s hs with hs | ⟨hs, p, hm, hx⟩
  · exact Or.inl hs
  · exact Or.inr ⟨hs, p, hp hm, hx⟩

/-- One directory more. -/
theorem of_makeDirectory (h : fs.makeDirectory p = .ok fs') : MoreDirectories [p] fs fs' := by
  unfold makeDirectory at h
  cases ht : fs.place p with
  | error e => rw [ht] at h; cases h
  | ok t =>
    rw [ht] at h
    cases t with
    | found l x => cases h
    | free r a =>
      cases h
      obtain ⟨hd, hn⟩ := place_free ht
      have hw := Within.put hd a (.directory [])
      have he : Extends fs (fs.put r a (.directory [])) := hw.extends_of_free (by simp [hn])
      refine ⟨rfl, he, fun l s hs => ?_⟩
      by_cases hl : r ++ [a] <+: l
      · obtain ⟨rest, rfl⟩ := hl
        rw [List.append_assoc, List.singleton_append] at hs
        rw [shape?, node?_put_append hd] at hs
        cases rest with
        | cons k rest => cases hs
        | nil =>
          cases hs
          rw [List.append_nil]
          exact Or.inr ⟨rfl, p, List.mem_cons_self, place_made he rfl ht (node?_put_self hd) rfl⟩
      · rw [hw.shape l (by simpa using hl)] at hs
        exact Or.inl hs

theorem of_ensureDirectory (fs : FileSystem) (p : Path) : MoreDirectories [p] fs (fs.ensureDirectory p).1 := by
  unfold ensureDirectory
  cases h : fs.makeDirectory p with
  | ok after => exact of_makeDirectory h
  | error fault =>
    have := refl [p] fs
    simp only
    split <;> exact this

/-- Some directories may have been made before a failure, too. -/
theorem of_ensureChain : ∀ (paths : List Path) (fs : FileSystem), MoreDirectories paths fs (ensureChain paths fs).1
  | [], fs => refl [] fs
  | p :: around, fs => by
    have hsame := refl (p :: around) fs
    unfold ensureChain
    cases h : fs.makeDirectory p with
    | ok after => exact (of_makeDirectory h).mono (by simp)
    | error fault =>
      have hrest := (of_ensureChain around fs).mono (List.subset_cons_self p around)
      cases fault with
      | notFound =>
        simp only
        rcases hc : ensureChain around fs with ⟨after, _ | u⟩
        · rw [hc] at hrest; exact hrest
        · rw [hc] at hrest
          exact hrest.trans ((of_ensureDirectory after p).mono (by simp))
      | _ => simp only; split <;> exact hsame

/-- **Making a directory with everything around it** makes directories on the way to it, also if it fails. -/
theorem of_makeDirectories (fs : FileSystem) (p : Path) : MoreDirectories p.chain fs (fs.makeDirectories p).1 :=
  of_ensureChain p.chain fs

end MoreDirectories

/-- By a path that cannot be handed to the file system, nothing is made. -/
theorem makeDirectories_of_check {p : Path} {fault : IoFault} (he : p.text ≠ "") (hc : p.check = .error fault) :
    fs.makeDirectories p = (fs, .error fault) := by
  have hmake : fs.makeDirectory p = .error fault := by
    unfold makeDirectory place
    rw [hc]
    rfl
  have hdir : fs.isDirectory p = false := by rw [isDirectory, find_of_check hc]
  unfold makeDirectories Path.chain
  rw [if_neg he, ensureChain, hmake]
  cases fault with
  | notFound => exact absurd hc (Path.check_ne_notFound he)
  | _ => simp [hdir]

section Opens

variable {p : Path} (ho : fs.Opens p r)
include ho

/-- A directory that is there cannot be made. -/
theorem makeDirectory_of_opens (hc : p.check = .ok ()) : fs.makeDirectory p = .error .alreadyExists := by
  obtain ⟨here, m, hs, hl⟩ := ho
  obtain ⟨l', x, hw⟩ := hl.found
  unfold makeDirectory place
  rw [hc, hs]
  simp only [bind, Except.bind, hw]
  rfl

/-- If a path leads to a directory already, making that directory comes to looking at the path. -/
theorem makeDirectories_eq_of_opens : fs.makeDirectories p = (fs, if p.text = "" then .ok () else p.check) := by
  by_cases he : p.text = ""
  · unfold makeDirectories Path.chain
    rw [if_pos he, if_pos he]
    rfl
  rw [if_neg he]
  cases hc : p.check with
  | error fault => exact makeDirectories_of_check he hc
  | ok _ =>
    have hdir : fs.isDirectory p = true := by
      rw [isDirectory, find_of_opens ho hc]
      rfl
    unfold makeDirectories Path.chain
    rw [if_neg he, ensureChain, makeDirectory_of_opens ho hc]
    simp only [hdir, if_true]

theorem makeDirectories_of_opens : (fs.makeDirectories p).1 = fs := by
  rw [makeDirectories_eq_of_opens ho]

theorem makeDirectories_ok_of_opens (hc : p.text = "" ∨ p.check = .ok ()) : (fs.makeDirectories p).2 = .ok () := by
  rw [makeDirectories_eq_of_opens ho]
  simp only
  split
  · rfl
  · rename_i he
    exact hc.resolve_left he

end Opens

/-! ## What has been made is there -/

/-- A path by which a directory is found leads there. -/
theorem opens_of_isDirectory {p : Path} (h : fs.isDirectory p = true) : ∃ r, fs.Opens p r := by
  unfold isDirectory find lookup at h
  cases hc : p.check with
  | error e => rw [hc] at h; cases h
  | ok u =>
    cases hs : fs.start p with
    | error e => rw [hc, hs] at h; cases h
    | ok here =>
      rw [hc, hs] at h
      simp only [bind, Except.bind] at h
      cases hw : fs.walk (.look true) maxLinks here p.lookupSteps with
      | error e => rw [hw] at h; cases h
      | ok t =>
        rw [hw] at h
        cases t with
        | free _ _ => cases h
        | found r x =>
          cases x with
          | file _ => cases h
          | link _ => cases h
          | directory entries =>
            obtain ⟨m, hl⟩ := leads_of_found rfl maxLinks here _ hw
            unfold Path.lookupSteps at hl
            split at hl
            · -- the empty step after a slash leads nowhere else
              rcases leads_or_error fs maxLinks here p.steps with ⟨m', r', hl'⟩ | ⟨e, he⟩
              · exact ⟨r', here, m', hs, hl'⟩
              · have hdot := hl.walk_dot (p := .look true)
                rw [List.append_assoc, he (.look true) _ (by simp) (by simp)] at hdot
                cases hdot
            · exact ⟨r, here, m, hs, hl⟩

/-- A path by which a directory was made leads there. -/
theorem opens_of_makeDirectory {p : Path} (h : fs.makeDirectory p = .ok fs') : ∃ r, fs'.Opens p r := by
  have hmore := MoreDirectories.of_makeDirectory h
  unfold makeDirectory at h
  cases ht : fs.place p with
  | error e => rw [ht] at h; cases h
  | ok t =>
    rw [ht] at h
    cases t with
    | found l x => cases h
    | free r a =>
      cases h
      obtain ⟨hd, -⟩ := place_free ht
      have hnew : (fs.put r a (.directory [])).node? (r ++ [a]) = some (.directory []) := node?_put_self hd
      have hc := place_carried hmore.kept hmore.working ht
      generalize hy : (fs.put r a (.directory [])).place p = t at hc
      cases hc with
      | free _ _ hn => rw [hnew] at hn; cases hn
      | taken _ _ hn hs => rw [hnew] at hn; cases hn; exact absurd rfl hs
      | made _ _ _ hs =>
        unfold place at hy
        cases hcheck : p.check with
        | error e => rw [hcheck] at hy; cases hy
        | ok u =>
          cases hstart : (fs.put r a (.directory [])).start p with
          | error e => rw [hcheck, hstart] at hy; cases hy
          | ok here =>
            rw [hcheck, hstart] at hy
            obtain ⟨m, hl⟩ := leads_of_found hs maxLinks here p.steps hy
            exact ⟨_, here, m, hstart, hl⟩

theorem opens_of_ensureDirectory {p : Path} (h : fs.ensureDirectory p = (fs', .ok ())) : ∃ r, fs'.Opens p r := by
  unfold ensureDirectory at h
  cases hm : fs.makeDirectory p with
  | ok after =>
    rw [hm] at h
    cases h
    exact opens_of_makeDirectory hm
  | error fault =>
    rw [hm] at h
    simp only at h
    split at h
    · rename_i hd
      cases h
      exact opens_of_isDirectory hd
    · cases h

theorem opens_of_ensureChain {p : Path} {around : List Path} (h : ensureChain (p :: around) fs = (fs', .ok ())) :
    ∃ r, fs'.Opens p r := by
  unfold ensureChain at h
  cases hm : fs.makeDirectory p with
  | ok after =>
    rw [hm] at h
    cases h
    exact opens_of_makeDirectory hm
  | error fault =>
    rw [hm] at h
    cases fault with
    | notFound =>
      simp only at h
      rcases hc : ensureChain around fs with ⟨after, e | ⟨⟩⟩
      · rw [hc] at h
        cases h
      · rw [hc] at h
        exact opens_of_ensureDirectory h
    | _ =>
      simp only at h
      split at h
      · rename_i hd
        cases h
        exact opens_of_isDirectory hd
      · cases h

/-- If the path has made a directory, making it again changes nothing. -/
theorem makeDirectories_again {p : Path} (h : fs.makeDirectories p = (fs', .ok ())) (ho : fs'.Opens p r) :
    fs'.makeDirectories p = (fs', .ok ()) := by
  rw [makeDirectories_eq_of_opens ho]
  split
  · rfl
  · rename_i he
    cases hc : p.check with
    | ok _ => rfl
    | error fault =>
      rw [makeDirectories_of_check he hc] at h
      cases h

/-- **If making a directory with everything around it succeeds, the path leads there.** -/
theorem opens_of_makeDirectories {p : Path} (he : p.text ≠ "") (h : fs.makeDirectories p = (fs', .ok ())) :
    ∃ r, fs'.Opens p r := by
  unfold makeDirectories Path.chain at h
  rw [if_neg he] at h
  exact opens_of_ensureChain h

end FileSystem

end GraphDisk
