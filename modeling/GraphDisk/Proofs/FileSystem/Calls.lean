import Mathlib.Tactic.Push
import GraphDisk.FileSystem
import GraphDisk.Proofs.FileSystem.Entry

/-!
# What calls do to the entries of a directory

Making, writing, moving and removing entries of one directory changes what lies under these entries and nothing else
(`FileSystem.Within`). For each call there is a lemma that says what has happened if it has succeeded
(`makeDirectory_ok`, `writeFile_ok`, `rename_ok`, `removeTree_ok`), and for moving and removing one that says when they
succeed (`rename_entry`, `removeTree_entry`).
-/

namespace GraphDisk

namespace FileSystem

variable {fs fs' fs'' : FileSystem} {q : Path} {r : Location} {a b : String} {names : List String} {node x : Node}
  {fault : IoFault}

/-! ## Changes under some entries of a directory -/

/-- What lies under an entry depends on the entry. -/
theorem node?_congr_below (h : fs'.node? (r ++ [a]) = fs.node? (r ++ [a])) {l : Location} (hp : r ++ [a] <+: l) :
    fs'.node? l = fs.node? l := by
  obtain ⟨rest, rfl⟩ := hp
  rw [node?_append fs', node?_append fs, h]

/-- **Two file systems that differ under some entries of one directory at most**, and in what the directories above hold
because of that. -/
structure Within (r : Location) (names : List String) (fs fs' : FileSystem) : Prop where
  working : fs'.working = fs.working
  shape : ∀ l, (∀ a ∈ names, ¬ r ++ [a] <+: l) → fs'.shape? l = fs.shape? l
  node : ∀ l, (∀ a ∈ names, ¬ r ++ [a] <+: l) → ¬ l <+: r → fs'.node? l = fs.node? l

namespace Within

theorem refl (r : Location) (names : List String) (fs : FileSystem) : Within r names fs fs :=
  ⟨rfl, fun _ _ => rfl, fun _ _ _ => rfl⟩

theorem trans (h : Within r names fs fs') (h' : Within r names fs' fs'') : Within r names fs fs'' :=
  ⟨h'.working.trans h.working, fun l hl => (h'.shape l hl).trans (h.shape l hl),
    fun l hl hr => (h'.node l hl hr).trans (h.node l hl hr)⟩

theorem symm (h : Within r names fs fs') : Within r names fs' fs :=
  ⟨h.working.symm, fun l hl => (h.shape l hl).symm, fun l hl hr => (h.node l hl hr).symm⟩

theorem mono {more : List String} (h : Within r names fs fs') (hn : names ⊆ more) : Within r more fs fs' :=
  ⟨h.working, fun l hl => h.shape l fun a ha => hl a (hn ha), fun l hl => h.node l fun a ha => hl a (hn ha)⟩

theorem put (hd : fs.shape? r = some .directory) (a : String) (node : Node) : Within r [a] fs (fs.put r a node) :=
  ⟨rfl, fun _ hl => shape?_put hd (hl a List.mem_cons_self), fun _ hl hr => node?_put hd (hl a List.mem_cons_self) hr⟩

theorem erase (hd : fs.shape? r = some .directory) (a : String) : Within r [a] fs (fs.erase (r ++ [a])) :=
  ⟨working_erase fs _, fun _ hl => shape?_erase hd (hl a List.mem_cons_self),
    fun _ hl hr => node?_erase hd (hl a List.mem_cons_self) hr⟩

theorem move (hd : fs.shape? r = some .directory) (a b : String) (x : Node) :
    Within r [a, b] fs ((fs.erase (r ++ [a])).put r b x) :=
  ((erase hd a).mono (by simp)).trans ((put (shape?_erase_directory hd) b x).mono (by simp))

/-- Changes in a directory are changes under its own entry in the directory around. -/
theorem outer (h : Within (r ++ [a]) names fs fs') : Within r [a] fs fs' := by
  have hbelow : ∀ l, (∀ k ∈ [a], ¬ r ++ [k] <+: l) → ∀ k ∈ names, ¬ r ++ [a] ++ [k] <+: l := fun l hl k _ hp =>
    hl a List.mem_cons_self ((List.prefix_append _ _).trans hp)
  refine ⟨h.working, fun l hl => h.shape l (hbelow l hl), fun l hl hr => h.node l (hbelow l hl) fun hp => ?_⟩
  rcases List.prefix_concat_iff.mp hp with rfl | hp
  · exact hl a List.mem_cons_self (List.prefix_refl _)
  · exact hr hp

/-- An entry under which nothing has changed after all. -/
theorem forget (h : Within r (a :: names) fs fs') (ha : fs'.node? (r ++ [a]) = fs.node? (r ++ [a])) :
    Within r names fs fs' := by
  refine ⟨h.working, fun l hl => ?_, fun l hl hr => ?_⟩
  · by_cases hp : r ++ [a] <+: l
    · rw [shape?, node?_congr_below ha hp, shape?]
    · exact h.shape l (List.forall_mem_cons.mpr ⟨hp, hl⟩)
  · by_cases hp : r ++ [a] <+: l
    · exact node?_congr_below ha hp
    · exact h.node l (List.forall_mem_cons.mpr ⟨hp, hl⟩) hr

theorem directory (h : Within r names fs fs') : fs'.shape? r = fs.shape? r :=
  h.shape r fun a _ => entry_not_above r a

/-- The entries beside. -/
theorem entry (h : Within r names fs fs') (hb : b ∉ names) : fs'.node? (r ++ [b]) = fs.node? (r ++ [b]) := by
  refine h.node _ (fun a ha hp => ?_) (entry_not_above r b)
  exact hb ((concat_prefix_iff.mp hp) ▸ ha)

theorem node?_below (h : fs.node? (r ++ [a]) = none) {l : Location} (hp : r ++ [a] <+: l) : fs.node? l = none := by
  obtain ⟨rest, rfl⟩ := hp
  rw [node?_append, h]; rfl

/-- Entries that were free before: everything that was seen is still seen. -/
theorem extends_of_free (h : Within r names fs fs') (hf : ∀ a ∈ names, fs.node? (r ++ [a]) = none) :
    Extends fs fs' := by
  intro l s hs
  rw [h.shape l, hs]
  intro a ha hp
  rw [shape?, node?_below (hf a ha) hp] at hs
  cases hs

/-- Of the entries, some were free before and the others are free now. -/
theorem thins {kept : FileSystem} (hk : Within r names fs kept) (h : Within r names fs fs')
    (hf : ∀ a ∈ names, fs.node? (r ++ [a]) = none ∨ fs'.node? (r ++ [a]) = none) : Thins fs kept fs' := by
  intro l s hs
  by_cases hl : ∀ a ∈ names, ¬ r ++ [a] <+: l
  · left
    rw [hk.shape l hl, h.shape l hl]
    exact ⟨hs, hs⟩
  · right
    push Not at hl
    obtain ⟨a, ha, hp⟩ := hl
    rcases hf a ha with hf | hf
    · rw [shape?, node?_below hf hp] at hs
      cases hs
    · exact shape?_eq_none.mpr (node?_below hf hp)

end Within

/-! ## Making and writing -/

theorem makeDirectory_ok (ha : IsEntryName a) (h : fs.makeDirectory (q.entry a) = .ok fs') :
    ∃ r, fs.Reaches q a r ∧ fs.node? (r ++ [a]) = none ∧ fs' = fs.put r a (.directory []) := by
  unfold makeDirectory at h
  cases hp : fs.place (q.entry a) with
  | error e => rw [hp] at h; cases h
  | ok t =>
    obtain ⟨r, hr, rfl⟩ := reaches_of_place ha hp
    refine ⟨r, hr, ?_⟩
    cases hx : fs.node? (r ++ [a]) with
    | none =>
      rw [hp, targetAt_none hx] at h
      cases h
      exact ⟨rfl, rfl⟩
    | some x =>
      rw [hp, targetAt_some hx] at h
      cases h

theorem makeDirectory_entry (ha : IsEntryName a) (hr : fs.Reaches q a r) (hx : fs.node? (r ++ [a]) = none) :
    fs.makeDirectory (q.entry a) = .ok (fs.put r a (.directory [])) := by
  unfold makeDirectory
  rw [hr.place ha, targetAt_none hx]
  rfl

theorem writeFile_ok {content : Content} (ho : fs.Opens q r) (ha : IsEntryName a)
    (hl : ∀ target, fs.shape? (r ++ [a]) ≠ some (.link target)) (h : fs.writeFile (q.entry a) content = .ok fs') :
    fs.Reaches q a r ∧ fs' = fs.put r a (.file content) := by
  unfold writeFile at h
  cases hp : fs.placeFile (q.entry a) with
  | error e => rw [hp] at h; cases h
  | ok t =>
    obtain ⟨hr, rfl⟩ := reaches_of_placeFile ho ha hl hp
    refine ⟨hr, ?_⟩
    cases hx : fs.node? (r ++ [a]) with
    | none =>
      rw [hp, targetAt_none hx] at h
      cases h; rfl
    | some x =>
      rw [hp, targetAt_some hx] at h
      cases x with
      | file old =>
        simp only [bind, Except.bind, List.getLast?_concat, List.dropLast_concat] at h
        cases h; rfl
      | directory entries => cases h
      | link target => cases h

/-- A file can be written over another one, or where nothing is. -/
theorem writeFile_entry (content : Content) (ha : IsEntryName a) (hr : fs.Reaches q a r)
    (hf : ∀ x, fs.node? (r ++ [a]) = some x → x.isFile) :
    fs.writeFile (q.entry a) content = .ok (fs.put r a (.file content)) := by
  have hl : ∀ target, fs.shape? (r ++ [a]) ≠ some (.link target) := by
    intro target ht
    have := hf _ (node?_of_link ht)
    cases this
  unfold writeFile
  rw [hr.placeFile ha hl]
  cases hx : fs.node? (r ++ [a]) with
  | none => rw [targetAt_none hx]; rfl
  | some x =>
    rw [targetAt_some hx]
    cases x with
    | file old => simp only [bind, Except.bind, List.getLast?_concat, List.dropLast_concat]; rfl
    | directory entries => cases hf _ hx
    | link target => cases hf _ hx

/-! ## Moving and removing -/

theorem endsInDots_entry (ha : IsEntryName a) : endsInDots (q.entry a) = false := by
  unfold endsInDots
  rw [Path.steps_entry ha.toIsSegment, List.getLast?_concat]
  simp [ha.ne_dot, ha.ne_dots]

theorem isPrefixOf_entry (hab : a ≠ b) : (r ++ [a]).isPrefixOf (r ++ [b]) = false := by
  rw [Bool.eq_false_iff]
  exact fun h => hab (concat_prefix_iff.mp (List.isPrefixOf_iff_prefix.mp h))

/-- What moving an entry to another name in the same directory comes to. -/
theorem rename_eq (ha : IsEntryName a) (hb : IsEntryName b) (hab : a ≠ b) (hra : fs.Reaches q a r)
    (hrb : fs.Reaches q b r) : fs.rename (q.entry a) (q.entry b) =
      match fs.node? (r ++ [a]) with
      | none => .error .notFound
      | some x =>
        match (fs.node? (r ++ [b])).bind (obstacle? x) with
        | some fault => .error fault
        | none => .ok ((fs.erase (r ++ [a])).put r b x) := by
  have hne : r ++ [a] ≠ r ++ [b] := by simp [hab]
  unfold rename
  rw [hra.place ha, hrb.place hb]
  simp only [bind, Except.bind, endsInDots_entry ha, endsInDots_entry hb, Path.endsInSlash_entry ha.toIsSegment,
    Path.endsInSlash_entry hb.toIsSegment]
  cases hx : fs.node? (r ++ [a]) with
  | none => rw [targetAt_none hx]; rfl
  | some x =>
    rw [targetAt_some hx]
    cases hy : fs.node? (r ++ [b]) with
    | none =>
      rw [targetAt_none hy]
      simp [isPrefixOf_entry hab, pure, Except.pure]
    | some y =>
      rw [targetAt_some hy]
      simp only [Option.bind_some]
      cases ho : obstacle? x y with
      | some fault => simp [hne, isPrefixOf_entry hab, isPrefixOf_entry hab.symm, throw, throwThe, MonadExceptOf.throw]
      | none => simp [hne, isPrefixOf_entry hab, isPrefixOf_entry hab.symm, pure, Except.pure]

theorem rename_ok (ha : IsEntryName a) (hb : IsEntryName b) (hab : a ≠ b)
    (h : fs.rename (q.entry a) (q.entry b) = .ok fs') : ∃ r x, fs.Reaches q a r ∧ fs.Reaches q b r ∧
      fs.node? (r ++ [a]) = some x ∧ (∀ y, fs.node? (r ++ [b]) = some y → obstacle? x y = none) ∧
      fs' = (fs.erase (r ++ [a])).put r b x := by
  cases hpa : fs.place (q.entry a) with
  | error e => unfold rename at h; rw [hpa] at h; cases h
  | ok t =>
    cases hpb : fs.place (q.entry b) with
    | error e => unfold rename at h; rw [hpa, hpb] at h; cases h
    | ok u =>
      obtain ⟨r, hra, -⟩ := reaches_of_place ha hpa
      obtain ⟨r', hrb, -⟩ := reaches_of_place hb hpb
      obtain rfl := hra.opens.unique hrb.opens
      rw [rename_eq ha hb hab hra hrb] at h
      cases hx : fs.node? (r ++ [a]) with
      | none => rw [hx] at h; cases h
      | some x =>
        rw [hx] at h
        cases ho : (fs.node? (r ++ [b])).bind (obstacle? x) with
        | some fault => simp only [ho] at h; cases h
        | none =>
          simp only [ho] at h
          cases h
          refine ⟨r, x, hra, hrb, hx, fun y hy => ?_, rfl⟩
          rw [hy] at ho
          exact ho

/-- The entries of a directory in which one was moved. -/
theorem node?_move_entry (hd : fs.shape? r = some .directory) (a b : String) (x : Node) (k : String) :
    ((fs.erase (r ++ [a])).put r b x).node? (r ++ [k]) =
      if k = b then some x else if k = a then none else fs.node? (r ++ [k]) := by
  rw [node?_put_entry (shape?_erase_directory hd), node?_erase_entry hd]

/-- An entry can be moved to a free one. -/
theorem rename_entry (ha : IsEntryName a) (hb : IsEntryName b) (hra : fs.Reaches q a r) (hrb : fs.Reaches q b r)
    (hx : fs.node? (r ++ [a]) = some x) (hy : fs.node? (r ++ [b]) = none) :
    fs.rename (q.entry a) (q.entry b) = .ok ((fs.erase (r ++ [a])).put r b x) := by
  have hab : a ≠ b := by
    rintro rfl
    rw [hx] at hy; cases hy
  rw [rename_eq ha hb hab hra hrb, hx, hy]
  rfl

theorem removeTree_ok (ha : IsEntryName a) (h : fs.removeTree (q.entry a) = .ok fs') :
    ∃ r, fs.Reaches q a r ∧ fs' = fs.erase (r ++ [a]) := by
  unfold removeTree at h
  rw [lookup_false_entry ha] at h
  cases hp : fs.place (q.entry a) with
  | error e => rw [hp] at h; cases h
  | ok t =>
    obtain ⟨r, hr, rfl⟩ := reaches_of_place ha hp
    refine ⟨r, hr, ?_⟩
    cases hx : fs.node? (r ++ [a]) with
    | none => rw [hp, targetAt_none hx] at h; cases h
    | some x =>
      rw [hp, targetAt_some hx] at h
      cases x with
      | file content => cases h
      | link target => cases h; rfl
      | directory entries => cases h; rfl

theorem removeTree_entry {entries : Directory} (ha : IsEntryName a) (hr : fs.Reaches q a r)
    (hx : fs.node? (r ++ [a]) = some (.directory entries)) : fs.removeTree (q.entry a) = .ok (fs.erase (r ++ [a])) := by
  unfold removeTree
  rw [hr.lookup ha (Or.inl rfl), targetAt_some hx]
  rfl

/-- What removing an entry comes to. -/
theorem removeTree_eq (ha : IsEntryName a) (hr : fs.Reaches q a r) : fs.removeTree (q.entry a) =
    match fs.node? (r ++ [a]) with
    | none => .error .notFound
    | some (.file _) => .error .notDirectory
    | some _ => .ok (fs.erase (r ++ [a])) := by
  unfold removeTree
  rw [hr.lookup ha (Or.inl rfl)]
  cases hx : fs.node? (r ++ [a]) with
  | none => rw [targetAt_none hx]; rfl
  | some x =>
    rw [targetAt_some hx]
    cases x <;> rfl

/-! ## Finding -/

/-- A directory is found at its entry. -/
theorem find_entry (ha : IsEntryName a) (hr : fs.Reaches q a r) (hx : fs.node? (r ++ [a]) = some x)
    (hl : ∀ target, x.shape ≠ .link target) : fs.find (q.entry a) = .ok x := by
  unfold find
  rw [hr.lookup ha (Or.inr fun target => ?_), targetAt_some hx]
  · rfl
  · rw [shape?_of_node? hx]
    exact fun e => hl target (Option.some.inj e)

/-- What is found at an entry that is no link depends on the entry. -/
theorem find_congr (ho : fs.Opens q r) (ho' : fs'.Opens q r) (ha : IsEntryName a)
    (h : fs'.node? (r ++ [a]) = fs.node? (r ++ [a])) (hl : ∀ target, fs.shape? (r ++ [a]) ≠ some (.link target)) :
    fs'.find (q.entry a) = fs.find (q.entry a) := by
  have hl' : ∀ target, fs'.shape? (r ++ [a]) ≠ some (.link target) := by
    intro target
    rw [shape?, h]
    exact hl target
  unfold find
  rw [ho.lookup_entry ha (Or.inr hl), ho'.lookup_entry ha (Or.inr hl'), lookAt_congr h]

/-- Nothing is found at a free entry. -/
theorem find_free (ha : IsEntryName a) (hr : fs.Reaches q a r) (hx : fs.node? (r ++ [a]) = none) :
    fs.find (q.entry a) = .error .notFound := by
  unfold find
  rw [hr.lookup ha (Or.inr fun target => ?_), targetAt_none hx]
  · rfl
  · rw [shape?, hx]
    simp

/-- A name that is too long is not looked for. -/
theorem find_of_long (ho : fs.Opens q r) (ha : IsEntryName a) (hc : (q.entry a).check = .ok ())
    (hs : maxNameSize < a.utf8ByteSize) : fs.find (q.entry a) = .error .nameTooLong := by
  obtain ⟨here, m, hstart, hl⟩ := ho
  have hlookup : fs.lookup true (q.entry a) = .error .nameTooLong := by
    unfold lookup
    rw [hc, start_entry ha.toIsSegment, hstart, Path.lookupSteps_entry ha.toIsSegment]
    exact (walk_append hl (by simp) (by simp [ha.ne_empty])).trans (walk_long hs (by simp))
  unfold find
  rw [hlookup]
  rfl

theorem find_of_check (h : q.check = .error fault) : fs.find q = .error fault := by
  unfold find lookup
  rw [h]
  rfl

theorem list_entry {entries : Directory} (ha : IsEntryName a) (hr : fs.Reaches q a r)
    (hx : fs.node? (r ++ [a]) = some (.directory entries)) : fs.list (q.entry a) = .ok entries := by
  unfold list
  rw [find_entry ha hr hx (by simp [Node.shape])]
  rfl

/-- A path that leads to a directory finds it. -/
theorem find_of_opens (ho : fs.Opens q r) (hc : q.check = .ok ()) : fs.find q = .ok (.directory (fs.entriesAt r)) := by
  obtain ⟨here, m, hs, hl⟩ := ho
  have hlookup : fs.lookup true q = .ok (.found r (.directory (fs.entriesAt r))) := by
    unfold lookup Path.lookupSteps
    rw [hc, hs]
    split
    · exact (hl.append (.stay (Or.inr rfl) (.here _ _))).found_directory
    · exact hl.found_directory
  unfold find
  rw [hlookup]
  rfl

/-- A path to a directory with a dot after it lists that directory. -/
theorem list_dot (ho : fs.Opens q r) (hc : (q.entry ".").check = .ok ()) :
    fs.list (q.entry ".") = .ok (fs.entriesAt r) := by
  obtain ⟨here, m, hs, hl⟩ := ho
  have hlookup : fs.lookup true (q.entry ".") = .ok (.found r (.directory (fs.entriesAt r))) := by
    unfold lookup
    rw [hc, start_entry isSegment_dot, hs, Path.lookupSteps_entry isSegment_dot]
    exact hl.walk_dot
  unfold list find
  rw [hlookup]
  rfl

end FileSystem

end GraphDisk
