import GraphDisk.FileSystem.Walk
import GraphDisk.Proofs.FileSystem.Shape

/-!
# Where steps lead

`FileSystem.Leads` says which directory some steps lead to, and how many links may still be followed from there. What a
walk finds after these steps is what it finds from that directory (`walk_append`), whatever comes next; if the steps
lead nowhere every such walk fails for one and the same reason (`leads_or_error`). Since walks depend on shapes only,
steps lead to the same place in a file system in which everything is seen that was seen before (`Leads.mono`), and if
one step is carried out where something is missing they have not needed it (`Leads.or_missing`).
-/

namespace GraphDisk

namespace FileSystem

/-- A step down to an entry of a directory. -/
structure IsStep (name : String) : Prop where
  ne_empty : name ≠ ""
  ne_dot : name ≠ "."
  ne_dots : name ≠ ".."
  short : name.utf8ByteSize ≤ maxNameSize

/-- Where the steps in the target of a link begin, if the link lies in the given directory. -/
def linkStart (target : Path) (here : Location) : Location := if target.isAbsolute then [] else here

/-- **The directory that some steps lead to**, from a directory and with a number of links; the number of links that may
still be followed comes with it. -/
inductive Leads (fs : FileSystem) : Nat → Location → List String → Nat → Location → Prop
  | here (n : Nat) (l : Location) : Leads fs n l [] n l
  | stay {n m : Nat} {l r : Location} {name : String} {rest : List String} :
      name = "." ∨ name = "" → Leads fs n l rest m r → Leads fs n l (name :: rest) m r
  | up {n m : Nat} {l r : Location} {rest : List String} :
      Leads fs n l.dropLast rest m r → Leads fs n l (".." :: rest) m r
  | down {n m : Nat} {l r : Location} {name : String} {rest : List String} :
      IsStep name → fs.shape? (l ++ [name]) = some .directory → Leads fs n (l ++ [name]) rest m r →
      Leads fs n l (name :: rest) m r
  | link {n m : Nat} {l r : Location} {name : String} {rest : List String} {target : Path} :
      IsStep name → fs.shape? (l ++ [name]) = some (.link target) →
      Leads fs n (linkStart target l) (target.lookupSteps ++ rest) m r → Leads fs (n + 1) l (name :: rest) m r

variable {fs fs' : FileSystem} {p : Purpose} {n m : Nat} {l r : Location} {name : String} {steps rest : List String}

/-! ## One step of a walk -/

/-- What a walk does at a link. -/
def follow (fs : FileSystem) (p : Purpose) : Nat → Location → Path → List String → Except IoFault Target
  | 0, _, _, _ => .error .tooManyLinks
  | n + 1, here, target, rest => fs.walk p n (linkStart target here) (target.lookupSteps ++ rest)

theorem walk_eq (fs : FileSystem) (p : Purpose) (n : Nat) : fs.walk p n = fs.advance p (fs.follow p n) := by
  cases n <;> rfl

@[simp] theorem walk_nil : fs.walk p n l [] = .ok (.found l (.directory (fs.entriesAt l))) := by
  rw [walk_eq, advance]

theorem walk_stay (h : name = "." ∨ name = "") : fs.walk p n l (name :: rest) = fs.walk p n l rest := by
  rw [walk_eq, advance, if_pos h]

theorem walk_up : fs.walk p n l (".." :: rest) = fs.walk p n l.dropLast rest := by
  rw [walk_eq, advance, if_neg (by decide), if_pos rfl]

/-- A step down looks at one entry. -/
theorem walk_step (h : IsStep name) (hp : ¬ (p = .write ∧ rest = [""])) : fs.walk p n l (name :: rest) =
    match fs.node? (l ++ [name]) with
    | some (.directory _) => fs.walk p n (l ++ [name]) rest
    | some (.link target) =>
      if rest = [] ∧ p.follows = false then .ok (.found (l ++ [name]) (.link target)) else fs.follow p n l target rest
    | some (.file content) => if rest = [] then .ok (.found (l ++ [name]) (.file content)) else .error .notDirectory
    | none => if rest = [] then .ok (.free l name) else .error .notFound := by
  have h1 : ¬ (name = "." ∨ name = "") := fun e => e.elim h.ne_dot h.ne_empty
  rewrite [walk_eq, advance, if_neg h1, if_neg h.ne_dots, if_neg hp, if_neg (Nat.not_lt.mpr h.short)]
  rfl

/-- A step down with an overlong name fails. -/
theorem walk_long (h : maxNameSize < name.utf8ByteSize) (hp : ¬ (p = .write ∧ rest = [""])) :
    fs.walk p n l (name :: rest) = .error .nameTooLong := by
  have h1 : ¬ (name = "." ∨ name = "") := by
    rintro (rfl | rfl) <;> exact absurd h (by decide)
  have h2 : name ≠ ".." := by
    rintro rfl; exact absurd h (by decide)
  rw [walk_eq, advance, if_neg h1, if_neg h2, if_neg hp, if_pos h]

theorem walk_directory (h : IsStep name) (hp : ¬ (p = .write ∧ rest = [""]))
    (hs : fs.shape? (l ++ [name]) = some .directory) :
    fs.walk p n l (name :: rest) = fs.walk p n (l ++ [name]) rest := by
  rw [walk_step h hp, node?_of_directory hs]

theorem node?_of_link {target : Path} (hs : fs.shape? l = some (.link target)) : fs.node? l = some (.link target) := by
  obtain ⟨x, hx, hs⟩ := Option.map_eq_some_iff.mp hs
  cases x with
  | file _ => cases hs
  | link _ => cases hs; exact hx
  | directory _ => cases hs

theorem walk_link {target : Path} (h : IsStep name) (hp : ¬ (p = .write ∧ rest = [""])) (hr : rest ≠ [])
    (hs : fs.shape? (l ++ [name]) = some (.link target)) :
    fs.walk p (n + 1) l (name :: rest) = fs.walk p n (linkStart target l) (target.lookupSteps ++ rest) := by
  rw [walk_step h hp, node?_of_link hs]
  simp only [hr, false_and, if_false]
  rfl

/-! ## Walks and where steps lead -/

/-- More steps than an empty one. -/
theorem not_write_slash (steps : List String) (h : rest ≠ []) (h' : rest ≠ [""]) :
    ¬ (p = .write ∧ steps ++ rest = [""]) := by
  rintro ⟨-, e⟩
  cases steps with
  | nil => exact h' e
  | cons s steps => simp [h] at e

/-- Where there is nothing a walk cannot go on. -/
theorem walk_missing (h : IsStep name) (hr : rest ≠ []) (hr' : rest ≠ [""]) (hs : fs.shape? (l ++ [name]) = none) :
    fs.walk p n l (name :: steps ++ rest) = .error .notFound := by
  rw [List.cons_append, walk_step h (not_write_slash steps hr hr'), shape?_eq_none.mp hs]
  simp [hr]

/-- **What a walk finds after some steps is what it finds from the directory that they lead to.** -/
theorem walk_append (hl : fs.Leads n l steps m r) (h : rest ≠ []) (h' : rest ≠ [""]) :
    fs.walk p n l (steps ++ rest) = fs.walk p m r rest := by
  induction hl with
  | here => rfl
  | stay hn _ ih => rw [List.cons_append, walk_stay hn, ih]
  | up _ ih => rw [List.cons_append, walk_up, ih]
  | down hn hs _ ih => rw [List.cons_append, walk_directory hn (not_write_slash _ h h') hs, ih]
  | link hn hs _ ih =>
    rw [List.cons_append, walk_link hn (not_write_slash _ h h') (by simp [h]) hs, ← List.append_assoc, ih]

/-- A dot after some steps finds the directory that they lead to. -/
theorem Leads.walk_dot (hl : fs.Leads n l steps m r) :
    fs.walk p n l (steps ++ ["."]) = .ok (.found r (.directory (fs.entriesAt r))) := by
  rw [walk_append hl (by simp) (by simp), walk_stay (Or.inl rfl), walk_nil]

/-- Steps lead somewhere, or every walk along them fails for the same reason. -/
theorem leads_or_error (fs : FileSystem) (n : Nat) (l : Location) : ∀ steps : List String,
    (∃ m r, fs.Leads n l steps m r) ∨
      ∃ e, ∀ p rest, rest ≠ [] → rest ≠ [""] → fs.walk p n l (steps ++ rest) = .error e
  | [] => Or.inl ⟨_, _, .here _ _⟩
  | name :: steps => by
    by_cases hdot : name = "." ∨ name = ""
    · rcases leads_or_error fs n l steps with ⟨m, r, h⟩ | ⟨e, h⟩
      · exact Or.inl ⟨m, r, .stay hdot h⟩
      · exact Or.inr ⟨e, fun p rest h₁ h₂ => by rw [List.cons_append, walk_stay hdot, h p rest h₁ h₂]⟩
    by_cases hup : name = ".."
    · subst hup
      rcases leads_or_error fs n l.dropLast steps with ⟨m, r, h⟩ | ⟨e, h⟩
      · exact Or.inl ⟨m, r, .up h⟩
      · exact Or.inr ⟨e, fun p rest h₁ h₂ => by rw [List.cons_append, walk_up, h p rest h₁ h₂]⟩
    by_cases hlong : maxNameSize < name.utf8ByteSize
    · exact Or.inr ⟨_, fun p rest h₁ h₂ => walk_long hlong (not_write_slash steps h₁ h₂)⟩
    have hstep : IsStep name := ⟨fun e => hdot (Or.inr e), fun e => hdot (Or.inl e), hup, Nat.not_lt.mp hlong⟩
    cases hn : fs.node? (l ++ [name]) with
    | none =>
      refine Or.inr ⟨.notFound, fun p rest h₁ h₂ => ?_⟩
      rw [List.cons_append, walk_step hstep (not_write_slash steps h₁ h₂), hn]
      simp [h₁]
    | some x =>
      cases x with
      | file content =>
        refine Or.inr ⟨.notDirectory, fun p rest h₁ h₂ => ?_⟩
        rw [List.cons_append, walk_step hstep (not_write_slash steps h₁ h₂), hn]
        simp [h₁]
      | directory entries =>
        have hs := shape?_of_node? hn
        rcases leads_or_error fs n (l ++ [name]) steps with ⟨m, r, h⟩ | ⟨e, h⟩
        · exact Or.inl ⟨m, r, .down hstep hs h⟩
        · refine Or.inr ⟨e, fun p rest h₁ h₂ => ?_⟩
          rw [List.cons_append, walk_directory hstep (not_write_slash steps h₁ h₂) hs, h p rest h₁ h₂]
      | link target =>
        have hs := shape?_of_node? hn
        cases n with
        | zero =>
          refine Or.inr ⟨.tooManyLinks, fun p rest h₁ h₂ => ?_⟩
          rw [List.cons_append, walk_step hstep (not_write_slash steps h₁ h₂), hn]
          simp [h₁, follow]
        | succ n =>
          rcases leads_or_error fs n (linkStart target l) (target.lookupSteps ++ steps) with ⟨m, r, h⟩ | ⟨e, h⟩
          · exact Or.inl ⟨m, r, .link hstep hs h⟩
          · refine Or.inr ⟨e, fun p rest h₁ h₂ => ?_⟩
            rw [List.cons_append, walk_link hstep (not_write_slash steps h₁ h₂) (by simp [h₁]) hs,
              ← List.append_assoc, h p rest h₁ h₂]
termination_by steps => (n, steps.length)

/-- A walk that does not fail has gone where the steps before lead. -/
theorem leads_of_walk {t : Target} (h : rest ≠ []) (h' : rest ≠ [""]) (hw : fs.walk p n l (steps ++ rest) = .ok t) :
    ∃ m r, fs.Leads n l steps m r := by
  rcases leads_or_error fs n l steps with hl | ⟨e, he⟩
  · exact hl
  · rw [he p rest h h'] at hw; cases hw

theorem shape?_linkStart (target : Path) (h : fs.shape? l = some .directory) :
    fs.shape? (linkStart target l) = some .directory := by
  unfold linkStart
  split
  · rfl
  · exact h

/-- Steps that begin in a directory end in one. -/
theorem Leads.directory (hl : fs.Leads n l steps m r) (h : fs.shape? l = some .directory) :
    fs.shape? r = some .directory := by
  induction hl with
  | here => exact h
  | stay _ _ ih => exact ih h
  | up _ ih => exact ih (shape?_dropLast h)
  | down _ hs _ ih => exact ih hs
  | link _ _ _ ih => exact ih (shape?_linkStart _ h)

/-! ## Other file systems -/

/-- Everything that is seen in one file system is seen in the other. -/
def Extends (fs fs' : FileSystem) : Prop := ∀ l s, fs.shape? l = some s → fs'.shape? l = some s

theorem Extends.refl (fs : FileSystem) : Extends fs fs := fun _ _ h => h

theorem Extends.trans {fs'' : FileSystem} (h : Extends fs fs') (h' : Extends fs' fs'') : Extends fs fs'' :=
  fun l s hs => h' l s (h l s hs)

/-- **Steps lead to the same place in an extended file system.** -/
theorem Leads.mono (he : Extends fs fs') (hl : fs.Leads n l steps m r) : fs'.Leads n l steps m r := by
  induction hl with
  | here => exact .here _ _
  | stay hn _ ih => exact .stay hn ih
  | up _ ih => exact .up ih
  | down hn hs _ ih => exact .down hn (he _ _ hs) ih
  | link hn hs _ ih => exact .link hn (he _ _ hs) ih

/-- Whatever is seen in one file system is missing in another one, or is seen there and in a third one, in which only
what matters is kept. -/
def Thins (fs kept fs' : FileSystem) : Prop :=
  ∀ l s, fs.shape? l = some s → kept.shape? l = some s ∧ fs'.shape? l = some s ∨ fs'.shape? l = none

/-- **Where something is missing, steps lead to the same place by what is kept, or nowhere.** -/
theorem Leads.or_missing {kept : FileSystem} (ht : Thins fs kept fs') (hl : fs.Leads n l steps m r) :
    kept.Leads n l steps m r ∨
      ∀ p rest, rest ≠ [] → rest ≠ [""] → fs'.walk p n l (steps ++ rest) = .error .notFound := by
  induction hl with
  | here => exact Or.inl (.here _ _)
  | stay hn _ ih =>
    rcases ih with h | h
    · exact Or.inl (.stay hn h)
    · exact Or.inr fun p rest h₁ h₂ => by rw [List.cons_append, walk_stay hn, h p rest h₁ h₂]
  | up _ ih =>
    rcases ih with h | h
    · exact Or.inl (.up h)
    · exact Or.inr fun p rest h₁ h₂ => by rw [List.cons_append, walk_up, h p rest h₁ h₂]
  | down hn hs _ ih =>
    rcases ht _ _ hs with ⟨hk, hs'⟩ | hs'
    · rcases ih with h | h
      · exact Or.inl (.down hn hk h)
      · refine Or.inr fun p rest h₁ h₂ => ?_
        rw [List.cons_append, walk_directory hn (not_write_slash _ h₁ h₂) hs', h p rest h₁ h₂]
    · exact Or.inr fun p rest h₁ h₂ => walk_missing hn h₁ h₂ hs'
  | link hn hs _ ih =>
    rcases ht _ _ hs with ⟨hk, hs'⟩ | hs'
    · rcases ih with h | h
      · exact Or.inl (.link hn hk h)
      · refine Or.inr fun p rest h₁ h₂ => ?_
        rw [List.cons_append, walk_link hn (not_write_slash _ h₁ h₂) (by simp [h₁]) hs', ← List.append_assoc,
          h p rest h₁ h₂]
    · exact Or.inr fun p rest h₁ h₂ => walk_missing hn h₁ h₂ hs'

/-- What steps to a directory find on a walk that does not follow a link at the end. -/
theorem Leads.found (hl : fs.Leads n l steps m r) : ∃ l' x, fs.walk (.look false) n l steps = .ok (.found l' x) := by
  have hp : ∀ {rest : List String}, ¬ (Purpose.look false = .write ∧ rest = [""]) := by simp
  induction hl with
  | here => exact ⟨_, _, walk_nil⟩
  | stay hn _ ih => rw [walk_stay hn]; exact ih
  | up _ ih => rw [walk_up]; exact ih
  | down hn hs _ ih => rw [walk_directory hn hp hs]; exact ih
  | @link _ _ _ _ _ rest _ hn hs _ ih =>
    by_cases hr : rest = []
    · rw [walk_step hn hp, node?_of_link hs]
      exact ⟨_, _, if_pos ⟨hr, rfl⟩⟩
    · rw [walk_link hn hp hr hs]; exact ih

/-- A walk that follows a link at the end finds the directory that the steps lead to. -/
theorem Leads.found_directory (hl : fs.Leads n l steps m r) :
    fs.walk (.look true) n l steps = .ok (.found r (.directory (fs.entriesAt r))) := by
  have hp : ∀ {rest : List String}, ¬ (Purpose.look true = .write ∧ rest = [""]) := by simp
  induction hl with
  | here => exact walk_nil
  | stay hn _ ih => rw [walk_stay hn, ih]
  | up _ ih => rw [walk_up, ih]
  | down hn hs _ ih => rw [walk_directory hn hp hs, ih]
  | link hn hs _ ih =>
    rw [walk_step hn hp, node?_of_link hs]
    simp only [Purpose.follows, Bool.true_eq_false, and_false, if_false]
    exact ih

/-- A walk that does not ask for a file and finds a directory has gone where its steps lead. -/
theorem leads_of_found {follow : Bool} {x : Node} (hx : x.shape = .directory) (n : Nat) (l : Location) :
    ∀ steps : List String, fs.walk (.look follow) n l steps = .ok (.found r x) → ∃ m, fs.Leads n l steps m r
  | [], h => by
    rw [walk_nil] at h
    cases h
    exact ⟨_, .here _ _⟩
  | name :: rest, h => by
    have hp : ¬ (Purpose.look follow = .write ∧ rest = [""]) := by simp
    by_cases hdot : name = "." ∨ name = ""
    · rw [walk_stay hdot] at h
      obtain ⟨m, hl⟩ := leads_of_found hx n l rest h
      exact ⟨m, .stay hdot hl⟩
    by_cases hup : name = ".."
    · subst hup
      rw [walk_up] at h
      obtain ⟨m, hl⟩ := leads_of_found hx n l.dropLast rest h
      exact ⟨m, .up hl⟩
    by_cases hlong : maxNameSize < name.utf8ByteSize
    · rw [walk_long hlong hp] at h; cases h
    have hstep : IsStep name := ⟨fun e => hdot (Or.inr e), fun e => hdot (Or.inl e), hup, Nat.not_lt.mp hlong⟩
    rw [walk_step hstep hp] at h
    cases hn : fs.node? (l ++ [name]) with
    | none =>
      rw [hn] at h
      simp only at h
      split at h <;> cases h
    | some y =>
      have hs := shape?_of_node? hn
      rw [hn] at h
      cases y with
      | file content =>
        simp only at h
        split at h
        · cases h; cases hx
        · cases h
      | directory entries =>
        obtain ⟨m, hl⟩ := leads_of_found hx n (l ++ [name]) rest h
        exact ⟨m, .down hstep hs hl⟩
      | link target =>
        simp only at h
        split at h
        · cases h; cases hx
        · cases n with
          | zero => cases h
          | succ n =>
            obtain ⟨m, hl⟩ := leads_of_found hx n (linkStart target l) (target.lookupSteps ++ rest) h
            exact ⟨m, .link hstep hs hl⟩
termination_by steps => (n, steps.length)

/-! ## What walks find in other file systems -/

/-- What a walk has found in one file system, and what it finds in another one in which everything is seen that was seen
before. A name that was free may have been taken; only of a directory is it said that it is found. -/
inductive Carried (fs fs' : FileSystem) : Target → Except IoFault Target → Prop
  | found {r : Location} {x y : Node} : fs.node? r = some x → fs'.node? r = some y → y.shape = x.shape →
      Carried fs fs' (.found r x) (.ok (.found r y))
  | free {r : Location} {name : String} : fs.shape? r = some .directory → fs.node? (r ++ [name]) = none →
      fs'.node? (r ++ [name]) = none → Carried fs fs' (.free r name) (.ok (.free r name))
  | made {r : Location} {name : String} {y : Node} : fs.shape? r = some .directory → fs.node? (r ++ [name]) = none →
      fs'.node? (r ++ [name]) = some y → y.shape = .directory →
      Carried fs fs' (.free r name) (.ok (.found (r ++ [name]) y))
  | taken {r : Location} {name : String} {y : Node} {t : Except IoFault Target} : fs.shape? r = some .directory →
      fs.node? (r ++ [name]) = none → fs'.node? (r ++ [name]) = some y → y.shape ≠ .directory →
      Carried fs fs' (.free r name) t

theorem Extends.node? (he : Extends fs fs') {x : Node} (h : fs.node? l = some x) :
    ∃ y, fs'.node? l = some y ∧ y.shape = x.shape :=
  Option.map_eq_some_iff.mp (he l _ (shape?_of_node? h))

/-- The last step of a walk, to a name that was free. -/
theorem walk_last_carried (hn : IsStep name) (hd : fs.shape? l = some .directory) (hx : fs.node? (l ++ [name]) = none) :
    Carried fs fs' (.free l name) (fs'.walk p n l [name]) := by
  rw [walk_step hn (by simp)]
  cases hy : fs'.node? (l ++ [name]) with
  | none => exact .free hd hx hy
  | some y =>
    by_cases hs : y.shape = .directory
    · obtain ⟨entries, rfl⟩ := Node.eq_directory_of_shape hs
      have hwhole := node?_of_directory (shape?_of_node? hy)
      simp only [walk_nil]
      exact .made hd hx hwhole rfl
    · exact .taken hd hx hy hs

/-- **Walks in an extended file system.** -/
theorem walk_carried (he : Extends fs fs') {t : Target} (n : Nat) (l : Location) : ∀ steps : List String,
    fs.shape? l = some .directory → fs.walk p n l steps = .ok t → Carried fs fs' t (fs'.walk p n l steps)
  | [], hd, hw => by
    rw [walk_nil] at hw ⊢
    cases hw
    exact .found (node?_of_directory hd) (node?_of_directory (he _ _ hd)) rfl
  | name :: rest, hd, hw => by
    by_cases hdot : name = "." ∨ name = ""
    · rw [walk_stay hdot] at hw ⊢
      exact walk_carried he n l rest hd hw
    by_cases hup : name = ".."
    · subst hup
      rw [walk_up] at hw ⊢
      exact walk_carried he n l.dropLast rest (shape?_dropLast hd) hw
    by_cases hp : p = .write ∧ rest = [""]
    · rw [walk_eq, advance, if_neg hdot, if_neg hup, if_pos hp] at hw; cases hw
    by_cases hlong : maxNameSize < name.utf8ByteSize
    · rw [walk_long hlong hp] at hw; cases hw
    have hstep : IsStep name := ⟨fun e => hdot (Or.inr e), fun e => hdot (Or.inl e), hup, Nat.not_lt.mp hlong⟩
    rw [walk_step hstep hp] at hw
    cases hx : fs.node? (l ++ [name]) with
    | none =>
      rw [hx] at hw
      by_cases hr : rest = []
      · subst hr
        cases hw
        exact walk_last_carried hstep hd hx
      · simp only [hr, if_false] at hw; cases hw
    | some x =>
      obtain ⟨y, hy, hs⟩ := he.node? hx
      rw [hx] at hw
      rw [walk_step hstep hp, hy]
      cases x with
      | file content =>
        cases y with
        | link _ => cases hs
        | directory _ => cases hs
        | file content' =>
          cases hs
          by_cases hr : rest = []
          · subst hr
            cases hw
            exact .found hx hy rfl
          · simp only [hr, if_false] at hw; cases hw
      | directory entries =>
        obtain ⟨entries', rfl⟩ := Node.eq_directory_of_shape hs
        exact walk_carried he n (l ++ [name]) rest (shape?_of_node? hx) hw
      | link target =>
        cases y with
        | file _ => cases hs
        | directory _ => cases hs
        | link target' =>
          cases hs
          simp only at hw ⊢
          split at hw
          · rename_i hr
            cases hw
            rw [if_pos hr]
            exact .found hx hy rfl
          · rename_i hr
            rw [if_neg hr]
            cases n with
            | zero => cases hw
            | succ n =>
              exact walk_carried he n (linkStart target l) (target.lookupSteps ++ rest) (shape?_linkStart target hd) hw
termination_by steps => (n, steps.length)

end FileSystem

end GraphDisk
