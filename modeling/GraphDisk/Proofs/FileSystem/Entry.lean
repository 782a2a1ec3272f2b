import GraphDisk.Proofs.FileSystem.Leads

/-!
# Entries of a directory that a path leads to

The path of an entry has the steps of its directory's path and the name after them (`Path.steps_entry`). If the
directory's path leads to a directory (`FileSystem.Opens`) and nothing is wrong with the entry's path and name, that
path reaches the entry (`FileSystem.Reaches`): placing and looking up look at that one entry (`Reaches.place`,
`Reaches.lookup`), and they succeed in no other case (`reaches_of_place`).
-/

namespace GraphDisk

/-- One step of a path: a text without a slash. -/
structure IsSegment (name : String) : Prop where
  ne_empty : name ≠ ""
  no_slash : '/' ∉ name.toList

/-- A name that a path can put under a directory: it has no slash and no meaning of its own. -/
structure IsEntryName (name : String) : Prop extends IsSegment name where
  ne_dot : name ≠ "."
  ne_dots : name ≠ ".."

theorem isSegment_dot : IsSegment "." := ⟨by decide, by decide⟩

namespace Path

variable {q : Path} {name : String}

/-! ## The steps of an entry's path -/

theorem pieces_ne_nil (cs : List Char) : pieces cs ≠ [] := by
  cases cs with
  | nil => simp [pieces]
  | cons c cs =>
    unfold pieces
    split
    · simp
    · split <;> simp

theorem pieces_append_slash (b : List Char) : ∀ a : List Char, pieces (a ++ '/' :: b) = pieces a ++ pieces b
  | [] => by simp [pieces]
  | c :: a => by
    rw [List.cons_append, pieces, pieces, pieces_append_slash b a]
    by_cases hc : c = '/'
    · rw [if_pos hc, if_pos hc, List.cons_append]
    · rw [if_neg hc, if_neg hc]
      cases ha : pieces a with
      | nil => exact absurd ha (pieces_ne_nil a)
      | cons p ps => rfl

theorem pieces_of_not_mem : ∀ {cs : List Char}, '/' ∉ cs → pieces cs = [cs]
  | [], _ => rfl
  | c :: cs, h => by
    have hc : c ≠ '/' := fun e => h (by simp [e])
    rw [pieces, if_neg hc, pieces_of_not_mem (fun hm => h (List.mem_cons_of_mem _ hm))]

/-- The pieces that name something. -/
def named (cs : List Char) : List String := ((pieces cs).filter (· ≠ [])).map String.ofList

theorem named_append_slash (a b : List Char) : named (a ++ '/' :: b) = named a ++ named b := by
  simp [named, pieces_append_slash]

theorem named_of_segment (h : IsSegment name) : named name.toList = [name] := by
  have : name.toList ≠ [] := fun e => h.ne_empty (String.toList_eq_nil_iff.mp e)
  simp [named, pieces_of_not_mem h.no_slash, this]

theorem isAbsolute_segment (h : IsSegment name) : isAbsolute ⟨name⟩ = false := by
  unfold isAbsolute
  rw [beq_eq_false_iff_ne]
  exact fun e => h.no_slash (List.mem_of_mem_head? (by simp [e]))

/-- The text of an entry's path: the directory's text, perhaps a slash, and the name. -/
theorem entry_text (h : IsSegment name) : (q.entry name).text.toList = q.text.toList ++ name.toList ∧
      (q.text.toList = [] ∨ ∃ a, q.text.toList = a ++ ['/']) ∨
    (q.entry name).text.toList = q.text.toList ++ '/' :: name.toList ∧ q.text.toList ≠ [] := by
  unfold entry join
  rw [if_neg (by simp [isAbsolute_segment h])]
  by_cases he : q.text = "" ∨ q.endsInSlash = true
  · refine Or.inl ⟨by rw [if_pos he, String.toList_append], ?_⟩
    rcases he with he | he
    · exact Or.inl (by simp [he])
    · unfold endsInSlash at he
      exact Or.inr (List.getLast?_eq_some_iff.mp (beq_iff_eq.mp he))
  · refine Or.inr ⟨by rw [if_neg he]; simp, ?_⟩
    exact fun e => he (Or.inl (String.toList_eq_nil_iff.mp e))

theorem steps_eq (q : Path) : q.steps = named q.text.toList := rfl

theorem steps_entry (h : IsSegment name) : (q.entry name).steps = q.steps ++ [name] := by
  rw [steps_eq, steps_eq, ← named_of_segment h]
  rcases entry_text (q := q) h with ⟨ht, hq | ⟨a, hq⟩⟩ | ⟨ht, -⟩
  · rw [ht, hq]; rfl
  · rw [ht, hq, List.append_assoc, List.singleton_append, named_append_slash, named_append_slash]
    simp [named, pieces]
  · rw [ht, named_append_slash]

theorem isAbsolute_entry (h : IsSegment name) : (q.entry name).isAbsolute = q.isAbsolute := by
  unfold isAbsolute
  rcases entry_text (q := q) h with ⟨ht, hq | ⟨a, hq⟩⟩ | ⟨ht, hq⟩
  · rw [ht, hq]
    have := isAbsolute_segment h
    unfold isAbsolute at this
    rw [List.nil_append, this]; rfl
  · rw [ht, hq]; cases a <;> rfl
  · rw [ht]
    cases hc : q.text.toList with
    | nil => exact absurd hc hq
    | cons c cs => rfl

theorem endsInSlash_entry (h : IsSegment name) : (q.entry name).endsInSlash = false := by
  have hn : name.toList ≠ [] := fun e => h.ne_empty (String.toList_eq_nil_iff.mp e)
  have hlast : (q.entry name).text.toList.getLast? = name.toList.getLast? := by
    rcases entry_text (q := q) h with ⟨ht, -⟩ | ⟨ht, -⟩
    · rw [ht, List.getLast?_append, List.getLast?_eq_some_getLast hn]; rfl
    · rw [ht, List.getLast?_append, List.getLast?_cons_of_ne_nil hn, List.getLast?_eq_some_getLast hn]; rfl
  unfold endsInSlash
  rw [hlast, beq_eq_false_iff_ne]
  exact fun e => h.no_slash (List.mem_of_getLast? e)

theorem lookupSteps_entry (h : IsSegment name) : (q.entry name).lookupSteps = q.steps ++ [name] := by
  rw [lookupSteps, endsInSlash_entry h, steps_entry h]
  rfl

/-! ## Handing an entry's path to the file system -/

theorem check_eq_ok {p : Path} :
    p.check = .ok () ↔ '\x00' ∉ p.text.toList ∧ p.text ≠ "" ∧ p.text.utf8ByteSize ≤ maxPathSize := by
  unfold check
  rw [List.contains_eq_mem]
  by_cases hnul : '\x00' ∈ p.text.toList
  · simp [hnul]
  by_cases hempty : p.text = ""
  · simp [hempty]
  by_cases hlong : maxPathSize < p.text.utf8ByteSize
  · simp [hnul, hempty, hlong]
  · simp [hnul, hempty, Nat.not_lt.mp hlong]

theorem check_ne_notFound {p : Path} (h : p.text ≠ "") : p.check ≠ .error .notFound := by
  unfold check
  rw [if_neg h]
  split
  · simp
  · split <;> simp

/-- The text before the name in the path of an entry. -/
def stem (q : Path) : String := if q.text = "" ∨ q.endsInSlash = true then q.text else q.text ++ "/"

theorem entry_eq_stem (h : IsSegment name) : (q.entry name).text = q.stem ++ name := by
  unfold entry join stem
  rw [if_neg (by simp [isAbsolute_segment h])]
  split <;> rfl

/-- An entry of a path that can be handed to the file system: it can be handed there, too, unless it is too long. -/
theorem check_entry (hq : q.check = .ok ()) (h : IsSegment name) (hnul : '\x00' ∉ name.toList) :
    (q.entry name).check =
      if maxPathSize < (q.entry name).text.utf8ByteSize then .error .nameTooLong else .ok () := by
  obtain ⟨hq, hne, -⟩ := check_eq_ok.mp hq
  have hsteps : q.stem = q.text ∨ q.stem = q.text ++ "/" := by
    unfold stem
    split
    · exact Or.inl rfl
    · exact Or.inr rfl
  have hmem : '\x00' ∉ (q.entry name).text.toList := by
    rw [entry_eq_stem h]
    rcases hsteps with hs | hs
    · simp [hs, hq, hnul]
    · simp [hs, hq, hnul]
  have hempty : (q.entry name).text ≠ "" := by
    rw [entry_eq_stem h]
    exact fun e => h.ne_empty (String.append_eq_empty_iff.mp e).2
  unfold check
  rw [List.contains_eq_mem, if_neg (by simpa using hmem), if_neg hempty]

/-- If an entry's path can be handed to the file system, then so can the path of the directory itself. -/
theorem check_dot (h : IsSegment name) (hc : (q.entry name).check = .ok ()) : (q.entry ".").check = .ok () := by
  obtain ⟨hnul, -, hsize⟩ := check_eq_ok.mp hc
  rw [entry_eq_stem h] at hnul hsize
  have hpos : name.utf8ByteSize ≠ 0 := fun h0 => h.ne_empty (String.utf8ByteSize_eq_zero_iff.mp h0)
  have hdot : (".":String).utf8ByteSize = 1 := by decide
  rw [String.utf8ByteSize_append] at hsize
  apply check_eq_ok.mpr
  rw [entry_eq_stem isSegment_dot]
  refine ⟨?_, ?_, ?_⟩
  · intro hm
    rw [String.toList_append] at hm hnul
    rcases List.mem_append.mp hm with hm | hm
    · exact hnul (List.mem_append_left _ hm)
    · exact absurd hm (by decide)
  · intro he
    have := congrArg String.utf8ByteSize he
    rw [String.utf8ByteSize_append, hdot] at this
    simp at this
  · rw [String.utf8ByteSize_append]
    omega

end Path

namespace FileSystem

variable {fs fs' : FileSystem} {q : Path} {r here : Location} {name : String} {t : Target} {p : Purpose}

/-! ## Paths that lead to a directory -/

/-- **A path leads to a directory**, whatever is at its entries. -/
def Opens (fs : FileSystem) (q : Path) (r : Location) : Prop :=
  ∃ here m, fs.start q = .ok here ∧ fs.Leads maxLinks here q.steps m r

theorem start_directory (h : fs.start q = .ok here) : fs.shape? here = some .directory := by
  unfold start at h
  split at h
  · cases h; rfl
  · split at h
    · rename_i hn
      cases h; exact shape?_of_node? hn
    · cases h

theorem start_entry (hn : IsSegment name) : fs.start (q.entry name) = fs.start q := by
  rw [start, start, Path.isAbsolute_entry hn]

/-- A path begins in the same place, unless the working directory is missing. -/
theorem start_or_missing {kept : FileSystem} (hk : kept.working = fs.working) (hw : fs'.working = fs.working)
    (ht : Thins fs kept fs') (h : fs.start q = .ok here) :
    kept.start q = .ok here ∨ fs'.start q = .error .notFound := by
  have hd := start_directory h
  unfold start at h ⊢
  split
  · rename_i ha
    rw [if_pos ha] at h; exact Or.inl h
  · rename_i ha
    rw [if_neg ha] at h
    split at h
    · rw [hk, hw]
      cases h
      rcases ht _ _ hd with ⟨hs, -⟩ | hs
      · rw [node?_of_directory hs]; exact Or.inl rfl
      · rw [shape?_eq_none.mp hs]; exact Or.inr rfl
    · cases h

/-- A path begins in the same place if that is still a directory. -/
theorem start_of_directory (hw : fs'.working = fs.working) (h : fs.start q = .ok here)
    (hd : fs'.shape? here = some .directory) : fs'.start q = .ok here := by
  unfold start at h ⊢
  split
  · rename_i ha
    rw [if_pos ha] at h; exact h
  · rename_i ha
    rw [if_neg ha] at h
    split at h
    · cases h
      rw [hw, node?_of_directory hd]
    · cases h

theorem start_mono (he : Extends fs fs') (hw : fs'.working = fs.working) (h : fs.start q = .ok here) :
    fs'.start q = .ok here := start_of_directory hw h (he _ _ (start_directory h))

theorem Opens.directory (ho : fs.Opens q r) : fs.shape? r = some .directory := by
  obtain ⟨here, m, hs, hl⟩ := ho
  exact hl.directory (start_directory hs)

/-- A path leads to the same directory in an extended file system. -/
theorem Opens.mono (he : Extends fs fs') (hw : fs'.working = fs.working) (ho : fs.Opens q r) : fs'.Opens q r := by
  obtain ⟨here, m, hs, hl⟩ := ho
  exact ⟨here, m, start_mono he hw hs, hl.mono he⟩

/-- A path leads to one directory at most. -/
theorem Opens.unique {r' : Location} (ho : fs.Opens q r) (ho' : fs.Opens q r') : r = r' := by
  obtain ⟨here, m, hs, hl⟩ := ho
  obtain ⟨here', m', hs', hl'⟩ := ho'
  rw [hs] at hs'; cases hs'
  have h := hl.walk_dot (p := .look true)
  rw [hl'.walk_dot] at h
  cases h; rfl

theorem Leads.append {n m k : Nat} {l r' : Location} {steps rest : List String} (hl : fs.Leads n l steps m r)
    (hl' : fs.Leads m r rest k r') : fs.Leads n l (steps ++ rest) k r' := by
  induction hl with
  | here => exact hl'
  | stay hn _ ih => exact .stay hn (ih hl')
  | up _ ih => exact .up (ih hl')
  | down hn hs _ ih => exact .down hn hs (ih hl')
  | link hn hs _ ih =>
    refine .link hn hs ?_
    have := ih hl'
    rw [List.append_assoc] at this
    exact this

/-- The path of an entry that is a directory. -/
theorem Opens.entry (ho : fs.Opens q r) (hn : IsEntryName name) (hs : name.utf8ByteSize ≤ maxNameSize)
    (hd : fs.shape? (r ++ [name]) = some .directory) : fs.Opens (q.entry name) (r ++ [name]) := by
  obtain ⟨here, m, hst, hl⟩ := ho
  refine ⟨here, m, by rw [start_entry hn.toIsSegment, hst], ?_⟩
  rw [Path.steps_entry hn.toIsSegment]
  exact hl.append (.down ⟨hn.ne_empty, hn.ne_dot, hn.ne_dots, hs⟩ hd (.here _ _))

/-! ## Looking at one entry -/

/-- What there is at an entry of a directory. -/
def targetAt (fs : FileSystem) (r : Location) (name : String) : Target :=
  match fs.node? (r ++ [name]) with
  | some n => .found (r ++ [name]) n
  | none => .free r name

theorem targetAt_some {x : Node} (h : fs.node? (r ++ [name]) = some x) :
    fs.targetAt r name = .found (r ++ [name]) x := by
  rw [targetAt, h]

theorem targetAt_none (h : fs.node? (r ++ [name]) = none) : fs.targetAt r name = .free r name := by
  rw [targetAt, h]

/-- Walks of one step look at the entry, unless they follow a link there. -/
theorem walk_entry {m : Nat} (hn : IsEntryName name)
    (hl : p.follows = false ∨ ∀ target, fs.shape? (r ++ [name]) ≠ some (.link target)) :
    fs.walk p m r [name] =
      if maxNameSize < name.utf8ByteSize then .error .nameTooLong else .ok (fs.targetAt r name) := by
  have hw : ¬ (p = .write ∧ ([] : List String) = [""]) := by simp
  by_cases hlong : maxNameSize < name.utf8ByteSize
  · rw [if_pos hlong, walk_long hlong hw]
  rw [if_neg hlong, walk_step ⟨hn.ne_empty, hn.ne_dot, hn.ne_dots, Nat.not_lt.mp hlong⟩ hw]
  cases hx : fs.node? (r ++ [name]) with
  | none => rw [targetAt_none hx]; rfl
  | some x =>
    rw [targetAt_some hx]
    cases x with
    | file content => rfl
    | directory entries =>
      have := node?_of_directory (shape?_of_node? hx)
      rw [hx] at this
      cases this
      simp only [walk_nil]
    | link target =>
      rcases hl with hl | hl
      · simp [hl]
      · exact absurd (shape?_of_node? hx) (hl target)

/-- What comes of a path to an entry if the path to the directory leads there: the path and the name are checked, and
the entry is looked at. -/
def lookAt (fs : FileSystem) (q : Path) (r : Location) (name : String) : Except IoFault Target := do
  (q.entry name).check
  if maxNameSize < name.utf8ByteSize then .error .nameTooLong else .ok (fs.targetAt r name)

theorem lookAt_ok (h : fs.lookAt q r name = .ok t) :
    (q.entry name).check = .ok () ∧ name.utf8ByteSize ≤ maxNameSize ∧ t = fs.targetAt r name := by
  unfold lookAt at h
  cases hc : (q.entry name).check with
  | error e => rw [hc] at h; cases h
  | ok u =>
    rw [hc] at h
    by_cases hlong : maxNameSize < name.utf8ByteSize
    · simp only [bind, Except.bind, if_pos hlong] at h; cases h
    · simp only [bind, Except.bind, if_neg hlong] at h
      cases h
      exact ⟨rfl, Nat.not_lt.mp hlong, rfl⟩

/-- Looking at an entry depends on that entry only. -/
theorem lookAt_congr (h : fs'.node? (r ++ [name]) = fs.node? (r ++ [name])) :
    fs'.lookAt q r name = fs.lookAt q r name := by
  unfold lookAt targetAt
  rw [h]

/-- Placing an entry looks at that entry. -/
theorem Opens.place_entry (ho : fs.Opens q r) (hn : IsEntryName name) :
    fs.place (q.entry name) = fs.lookAt q r name := by
  obtain ⟨here, m, hs, hl⟩ := ho
  unfold place lookAt
  rw [start_entry hn.toIsSegment, hs, Path.steps_entry hn.toIsSegment]
  cases (q.entry name).check with
  | error fault => rfl
  | ok _ =>
    refine (walk_append hl (by simp) (by simp [hn.ne_empty])).trans ?_
    rw [walk_entry hn (Or.inl rfl)]
    rfl

/-- Looking an entry up looks at that entry, unless a link there is followed. -/
theorem Opens.lookup_entry (ho : fs.Opens q r) (hn : IsEntryName name) {follow : Bool}
    (hf : follow = false ∨ ∀ target, fs.shape? (r ++ [name]) ≠ some (.link target)) :
    fs.lookup follow (q.entry name) = fs.lookAt q r name := by
  obtain ⟨here, m, hs, hl⟩ := ho
  unfold lookup lookAt
  rw [start_entry hn.toIsSegment, hs, Path.lookupSteps_entry hn.toIsSegment]
  cases (q.entry name).check with
  | error fault => rfl
  | ok _ =>
    refine (walk_append hl (by simp) (by simp [hn.ne_empty])).trans ?_
    exact walk_entry (p := .look follow) hn hf

/-- Where a file is to be written looks at that entry, too, unless a link is there. -/
theorem Opens.placeFile_entry (ho : fs.Opens q r) (hn : IsEntryName name)
    (hf : ∀ target, fs.shape? (r ++ [name]) ≠ some (.link target)) :
    fs.placeFile (q.entry name) = fs.lookAt q r name := by
  obtain ⟨here, m, hs, hl⟩ := ho
  unfold placeFile lookAt
  rw [start_entry hn.toIsSegment, hs, Path.lookupSteps_entry hn.toIsSegment]
  cases (q.entry name).check with
  | error fault => rfl
  | ok _ =>
    refine (walk_append hl (by simp) (by simp [hn.ne_empty])).trans ?_
    rw [walk_entry hn (Or.inr hf)]
    rfl

/-- **The path of an entry gets as far as looking at that entry**: it can be handed to the file system, it leads to a
directory, and the name is short enough. -/
structure Reaches (fs : FileSystem) (q : Path) (name : String) (r : Location) : Prop where
  check : (q.entry name).check = .ok ()
  opens : fs.Opens q r
  short : name.utf8ByteSize ≤ maxNameSize

theorem Reaches.lookAt (h : fs.Reaches q name r) : fs.lookAt q r name = .ok (fs.targetAt r name) := by
  unfold FileSystem.lookAt
  rw [h.check, if_neg (Nat.not_lt.mpr h.short)]
  rfl

theorem Reaches.place (h : fs.Reaches q name r) (hn : IsEntryName name) :
    fs.place (q.entry name) = .ok (fs.targetAt r name) := by
  rw [h.opens.place_entry hn, h.lookAt]

theorem Reaches.lookup (h : fs.Reaches q name r) (hn : IsEntryName name) {follow : Bool}
    (hf : follow = false ∨ ∀ target, fs.shape? (r ++ [name]) ≠ some (.link target)) :
    fs.lookup follow (q.entry name) = .ok (fs.targetAt r name) := by
  rw [h.opens.lookup_entry hn hf, h.lookAt]

/-- What is placed at an entry is placed in a directory that is reached. -/
theorem reaches_of_place (hn : IsEntryName name) (h : fs.place (q.entry name) = .ok t) :
    ∃ r, fs.Reaches q name r ∧ t = fs.targetAt r name := by
  unfold place at h
  rw [start_entry hn.toIsSegment, Path.steps_entry hn.toIsSegment] at h
  cases hc : (q.entry name).check with
  | error e => rw [hc] at h; cases h
  | ok u =>
    cases hs : fs.start q with
    | error e => rw [hc, hs] at h; cases h
    | ok here =>
      rw [hc, hs] at h
      obtain ⟨m, r, hl⟩ := leads_of_walk (by simp) (by simp [hn.ne_empty]) h
      have hw : fs.walk (.look false) m r [name] = .ok t :=
        (walk_append hl (by simp) (by simp [hn.ne_empty])).symm.trans h
      rw [walk_entry hn (Or.inl rfl)] at hw
      split at hw
      · cases hw
      · rename_i hlong
        cases hw
        exact ⟨r, ⟨hc, ⟨here, m, hs, hl⟩, Nat.not_lt.mp hlong⟩, rfl⟩

/-- Without following a link, an entry is looked up where it would be placed. -/
theorem lookup_false_entry (hn : IsEntryName name) : fs.lookup false (q.entry name) = fs.place (q.entry name) := by
  unfold lookup place
  rw [Path.lookupSteps_entry hn.toIsSegment, Path.steps_entry hn.toIsSegment]

/-- A file is written at an entry by looking at that entry, unless a link is there. -/
theorem reaches_of_placeFile (ho : fs.Opens q r) (hn : IsEntryName name)
    (hf : ∀ target, fs.shape? (r ++ [name]) ≠ some (.link target)) (h : fs.placeFile (q.entry name) = .ok t) :
    fs.Reaches q name r ∧ t = fs.targetAt r name := by
  rw [ho.placeFile_entry hn hf] at h
  obtain ⟨hc, hs, ht⟩ := lookAt_ok h
  exact ⟨⟨hc, ho, hs⟩, ht⟩

theorem Reaches.placeFile (h : fs.Reaches q name r) (hn : IsEntryName name)
    (hf : ∀ target, fs.shape? (r ++ [name]) ≠ some (.link target)) :
    fs.placeFile (q.entry name) = .ok (fs.targetAt r name) := by
  rw [h.opens.placeFile_entry hn hf, h.lookAt]

/-- Where something is missing and yet the path leads to a directory, it has not needed what is missing. -/
theorem Opens.of_opens {kept : FileSystem} {r' : Location} (hk : kept.working = fs.working)
    (hw : fs'.working = fs.working)
    (hx : Extends kept fs') (ht : Thins fs kept fs') (ho : fs.Opens q r) (ho' : fs'.Opens q r') : kept.Opens q r := by
  obtain ⟨here, m, hs, hl⟩ := ho
  obtain ⟨here', m', hs', hl'⟩ := ho'
  rcases start_or_missing hk hw ht hs with hst | hst
  · rw [start_mono hx (hw.trans hk.symm) hst] at hs'; cases hs'
    rcases hl.or_missing ht with hl | hmiss
    · exact ⟨here, m, hst, hl⟩
    · have := hmiss (.look true) ["."] (by simp) (by simp)
      rw [hl'.walk_dot] at this
      cases this
  · rw [hst] at hs'; cases hs'

/-- The same, if something can be placed at an entry. -/
theorem Opens.of_place {kept : FileSystem} (hk : kept.working = fs.working) (hw : fs'.working = fs.working)
    (hx : Extends kept fs') (ht : Thins fs kept fs') (ho : fs.Opens q r) (hn : IsEntryName name)
    (h : fs'.place (q.entry name) = .ok t) : kept.Opens q r := by
  obtain ⟨r', hr, -⟩ := reaches_of_place hn h
  exact ho.of_opens hk hw hx ht hr.opens

end FileSystem

end GraphDisk
