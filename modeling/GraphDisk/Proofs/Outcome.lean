import Mathlib.Data.List.Forall2

/-!
# Computations that can fail, item by item

A list of items is worked through by `List.mapM`. That succeeds iff it succeeds for every item (`mapM_eq_ok`), and fails
with the reason of the first item that fails (`mapM_eq_error`).
-/

namespace GraphDisk

variable {α β ε : Type} {f : α → Except ε β} {g : α → β} {as : List α} {bs : List β} {b : β} {e : ε}

theorem bind_eq_ok {x : Except ε α} {k : α → Except ε β} : x >>= k = .ok b ↔ ∃ a, x = .ok a ∧ k a = .ok b := by
  cases x with
  | error e => simp [bind, Except.bind]
  | ok a => simp [bind, Except.bind]

theorem bind_eq_error {x : Except ε α} {k : α → Except ε β} :
    x >>= k = .error e ↔ x = .error e ∨ ∃ a, x = .ok a ∧ k a = .error e := by
  cases x with
  | error e' => simp [bind, Except.bind]
  | ok a => simp [bind, Except.bind]

theorem ok_ne_error {e : ε} (b : β) : Except.ok b ≠ .error e := fun h => by cases h

theorem bind_ne_error {x : Except ε α} {k : α → Except ε β} (hx : x ≠ .error e) (hk : ∀ a, k a ≠ .error e) :
    x >>= k ≠ .error e := by
  intro h
  rcases bind_eq_error.mp h with h | ⟨a, -, h⟩
  · exact hx h
  · exact hk a h

theorem exists_of_map_eq_ok {x : Except ε α} (h : x.map g = .ok b) : ∃ a, x = .ok a ∧ g a = b := by
  cases x with
  | error e => cases h
  | ok a => cases h; exact ⟨a, rfl, rfl⟩

theorem map_eq_error {x : Except ε α} (h : x.map g = .error e) : x = .error e := by
  cases x with
  | error e' => cases h; rfl
  | ok a => cases h

theorem eq_ok_of_toOption {x : Except ε α} {a : α} (h : x.toOption = some a) : x = .ok a := by
  cases x with
  | error e => cases h
  | ok b => cases h; rfl

/-- The reason of a failure. -/
def reason? : Except ε α → Option ε
  | .error e => some e
  | .ok _ => none

theorem eq_error_of_reason? {x : Except ε α} (h : reason? x = some e) : x = .error e := by
  cases x with
  | error e => cases h; rfl
  | ok b => cases h

theorem mapM_eq_ok : ∀ {as : List α} {bs : List β}, as.mapM f = .ok bs ↔ List.Forall₂ (fun a b => f a = .ok b) as bs
  | [], bs => by
    rw [List.mapM_nil, List.forall₂_nil_left_iff]
    constructor
    · intro h; cases h; rfl
    · intro h; rw [h]; rfl
  | a :: as, bs => by
    rw [List.mapM_cons, bind_eq_ok, List.forall₂_cons_left_iff]
    constructor
    · rintro ⟨b, hb, h⟩
      obtain ⟨rest, hrest, h⟩ := bind_eq_ok.mp h
      cases h
      exact ⟨b, rest, hb, mapM_eq_ok.mp hrest, rfl⟩
    · rintro ⟨b, rest, hb, hrest, rfl⟩
      exact ⟨b, hb, bind_eq_ok.mpr ⟨rest, mapM_eq_ok.mpr hrest, rfl⟩⟩

/-- The same for results that may be missing. -/
theorem mapM_eq_some {f : α → Option β} : ∀ {as : List α} {bs : List β},
    as.mapM f = some bs ↔ List.Forall₂ (fun a b => f a = some b) as bs
  | [], bs => by simp [eq_comm]
  | a :: as, bs => by
    simp only [List.mapM_cons, Option.bind_eq_bind, Option.pure_def, Option.bind_eq_some_iff,
      List.forall₂_cons_left_iff, Option.some.injEq]
    constructor
    · rintro ⟨b, hb, bs', hbs, rfl⟩
      exact ⟨b, bs', hb, mapM_eq_some.mp hbs, rfl⟩
    · rintro ⟨b, bs', hb, hbs, rfl⟩
      exact ⟨b, hb, bs', mapM_eq_some.mpr hbs, rfl⟩

/-- What is said of each result may be said of something else than the items, one for one. -/
theorem mapM_eq_ok_of_forall₂ {γ : Type} {R : γ → β → Prop} {cs : List γ}
    (h : List.Forall₂ (fun a c => ∀ b, f a = .ok b ↔ R c b) as cs) : as.mapM f = .ok bs ↔ List.Forall₂ R cs bs := by
  rw [mapM_eq_ok]
  induction h generalizing bs with
  | nil => rw [List.forall₂_nil_left_iff, List.forall₂_nil_left_iff]
  | cons hac _ ih => simp only [List.forall₂_cons_left_iff, hac, ih]

/-- Every item has its result. -/
theorem mapM_ok_of_mem {a : α} (h : as.mapM f = .ok bs) (ha : a ∈ as) : ∃ b ∈ bs, f a = .ok b := by
  have hall := mapM_eq_ok.mp h
  induction hall with
  | nil => cases ha
  | cons hab hrest ih =>
    rcases List.mem_cons.mp ha with rfl | ha
    · exact ⟨_, by simp, hab⟩
    · obtain ⟨b, hb, hok⟩ := ih (mapM_eq_ok.mpr hrest) ha
      exact ⟨b, by simp [hb], hok⟩

/-- Every result is that of an item. -/
theorem mem_of_mapM_ok (h : as.mapM f = .ok bs) (hb : b ∈ bs) : ∃ a ∈ as, f a = .ok b := by
  have hall := mapM_eq_ok.mp h
  induction hall with
  | nil => cases hb
  | cons hab hrest ih =>
    rcases List.mem_cons.mp hb with rfl | hb
    · exact ⟨_, by simp, hab⟩
    · obtain ⟨a, ha, hok⟩ := ih (mapM_eq_ok.mpr hrest) hb
      exact ⟨a, by simp [ha], hok⟩

theorem mapM_of_ok (h : ∀ a ∈ as, f a = .ok (g a)) : as.mapM f = .ok (as.map g) := by
  rw [mapM_eq_ok, List.forall₂_map_right_iff, List.forall₂_same]
  exact h

/-- If there is a result for every item, so there is for all of them. -/
theorem exists_mapM_ok (h : ∀ a ∈ as, ∃ b, f a = .ok b) : ∃ bs, as.mapM f = .ok bs := by
  induction as with
  | nil => exact ⟨[], rfl⟩
  | cons a as ih =>
    obtain ⟨⟨b, hb⟩, hrest⟩ := List.forall_mem_cons.mp h
    obtain ⟨bs, hbs⟩ := ih hrest
    exact ⟨b :: bs, mapM_eq_ok.mpr (.cons hb (mapM_eq_ok.mp hbs))⟩

/-- If the result for an item is known whenever there is one, so is the result for all items. -/
theorem eq_map_of_mapM (hg : ∀ a b, f a = .ok b → g a = b) (h : as.mapM f = .ok bs) :
    bs = as.map g ∧ ∀ a ∈ as, f a = .ok (g a) := by
  have hall := mapM_eq_ok.mp h
  induction hall with
  | nil => simp
  | @cons a b as bs hab hrest ih =>
    obtain ⟨hbs, has⟩ := ih (mapM_eq_ok.mpr hrest)
    rw [List.map_cons, ← hbs, hg a b hab]
    refine ⟨rfl, List.forall_mem_cons.mpr ⟨?_, has⟩⟩
    rw [hab, hg a b hab]

/-- **Items in another order** have the same results in another order. -/
theorem mapM_perm {as' : List α} (hp : as.Perm as') (h : as.mapM f = .ok bs) :
    ∃ bs', as'.mapM f = .ok bs' ∧ bs.Perm bs' := by
  induction hp generalizing bs with
  | nil => exact ⟨bs, h, List.Perm.refl _⟩
  | @cons a as as' _ ih =>
    obtain ⟨b, rest, hb, hrest, rfl⟩ := List.forall₂_cons_left_iff.mp (mapM_eq_ok.mp h)
    obtain ⟨rest', hrest', hp⟩ := ih (mapM_eq_ok.mpr hrest)
    exact ⟨b :: rest', mapM_eq_ok.mpr (.cons hb (mapM_eq_ok.mp hrest')), hp.cons b⟩
  | swap a a' as =>
    obtain ⟨b', _, hb', hall, rfl⟩ := List.forall₂_cons_left_iff.mp (mapM_eq_ok.mp h)
    obtain ⟨b, rest, hb, hrest, rfl⟩ := List.forall₂_cons_left_iff.mp hall
    exact ⟨b :: b' :: rest, mapM_eq_ok.mpr (.cons hb (.cons hb' hrest)), List.Perm.swap _ _ _⟩
  | trans _ _ ih ih' =>
    obtain ⟨bs', h', hp⟩ := ih h
    obtain ⟨bs'', h'', hp'⟩ := ih' h'
    exact ⟨bs'', h'', hp.trans hp'⟩

/-- Items are worked through alike if each of them is. -/
theorem mapM_congr_of_mem {f' : α → Except ε β} (h : ∀ a ∈ as, f a = f' a) : as.mapM f = as.mapM f' := by
  induction as with
  | nil => rfl
  | cons a as ih =>
    rw [List.mapM_cons, List.mapM_cons, h a (by simp), ih fun b hb => h b (by simp [hb])]

theorem ok_or_error (x : Except ε α) : (∃ a, x = .ok a) ∨ ∃ e, x = .error e := by
  cases x with
  | error e => exact Or.inr ⟨e, rfl⟩
  | ok a => exact Or.inl ⟨a, rfl⟩

theorem exists_error_iff {x : Except ε α} : (∃ e, x = .error e) ↔ ¬ ∃ a, x = .ok a := by
  cases x <;> simp

/-- **The first item that fails decides.** -/
theorem mapM_eq_error : ∀ {as : List α}, as.mapM f = .error e ↔
    ∃ before a behind, as = before ++ a :: behind ∧ (∀ x ∈ before, ∃ b, f x = .ok b) ∧ f a = .error e
  | [] => by simp [pure, Except.pure]
  | a :: as => by
    rw [List.mapM_cons, bind_eq_error]
    constructor
    · rintro (ha | ⟨b, hb, h⟩)
      · exact ⟨[], a, as, rfl, by simp, ha⟩
      · rcases bind_eq_error.mp h with h | ⟨_, _, h⟩
        · obtain ⟨before, x, behind, rfl, hok, hx⟩ := mapM_eq_error.mp h
          refine ⟨a :: before, x, behind, rfl, ?_, hx⟩
          exact List.forall_mem_cons.mpr ⟨⟨b, hb⟩, hok⟩
        · cases h
    · rintro ⟨before, x, behind, hsplit, hok, hx⟩
      cases before with
      | nil =>
        cases hsplit
        exact Or.inl hx
      | cons y before =>
        cases hsplit
        obtain ⟨⟨b, hb⟩, hok⟩ := List.forall_mem_cons.mp hok
        have hrest := mapM_eq_error.mpr ⟨before, x, behind, rfl, hok, hx⟩
        exact Or.inr ⟨b, hb, bind_eq_error.mpr (Or.inl hrest)⟩

/-- If the reason why an item fails is the first one among some parts of the item, then the first reason among all parts
decides. -/
theorem mapM_eq_error_iff_findSome? {γ : Type} {parts : α → List γ} {fault? : γ → Option ε}
    (h : ∀ a e, f a = .error e ↔ (parts a).findSome? fault? = some e) :
    as.mapM f = .error e ↔ (as.flatMap parts).findSome? fault? = some e := by
  induction as with
  | nil => simp [pure, Except.pure]
  | cons a as ih =>
    rw [List.mapM_cons, List.flatMap_cons, List.findSome?_append]
    cases ha : f a with
    | error e' =>
      rw [(h a e').mp ha]
      simp [bind, Except.bind]
    | ok b =>
      have hnone : (parts a).findSome? fault? = none := by
        cases hp : (parts a).findSome? fault? with
        | none => rfl
        | some e' =>
          rw [(h a e').mpr hp] at ha
          cases ha
      rw [hnone, Option.none_or, ← ih]
      cases as.mapM f <;> simp [bind, Except.bind, pure, Except.pure]

/-- One item that fails is enough. -/
theorem mapM_fails : (∃ e, as.mapM f = .error e) ↔ ∃ a ∈ as, ∃ e, f a = .error e := by
  constructor
  · rintro ⟨e, h⟩
    obtain ⟨before, a, behind, rfl, -, ha⟩ := mapM_eq_error.mp h
    exact ⟨a, by simp, e, ha⟩
  · rintro ⟨a, ha, e, hfail⟩
    rcases ok_or_error (as.mapM f) with ⟨bs, h⟩ | h
    · obtain ⟨b, -, hok⟩ := mapM_ok_of_mem h ha
      rw [hfail] at hok
      cases hok
    · exact h

end GraphDisk
