import GraphDisk.Proofs.FileSystem.Calls

/-!
# What calls leave alone

A call that changes only some entries of a directory, and looks only at these, does the same to two file systems that
agree on them (`FileSystem.Twins`, `FileSystem.SideBySide`), provided that the path to the directory leads there
whatever is done to the entries (`FileSystem.Firm`). From this it follows that calls at different entries do not notice
each other, and that it does not matter which of them comes first (`SideBySide.commute`).
-/

namespace GraphDisk

namespace FileSystem

variable {fs fs' fs₁ fs₂ kept base : FileSystem} {q : Path} {r l : Location} {a b : String}
  {names more others : List String}
  {res₁ res₂ res₁' res₂' : FileSystem × Except IoFault Unit}

/-- **Two file systems that hold the same**: the same directories, links and files with the same content at the same
locations. It is not compared in which order directories list their entries. -/
structure Same (fs fs' : FileSystem) : Prop where
  working : fs'.working = fs.working
  shape : ∀ l, fs'.shape? l = fs.shape? l

theorem Same.refl (fs : FileSystem) : Same fs fs := ⟨rfl, fun _ => rfl⟩

theorem Same.symm (h : Same fs fs') : Same fs' fs := ⟨h.working.symm, fun l => (h.shape l).symm⟩

/-! ## Paths that do not need some entries -/

/-- **A path leads to a directory whatever is done to some of its entries.** -/
def Firm (fs : FileSystem) (q : Path) (r : Location) (names : List String) : Prop :=
  ∀ fs', Within r names fs fs' → fs'.Opens q r

theorem Firm.opens (h : fs.Firm q r names) : fs.Opens q r := h fs (Within.refl r names fs)

theorem Firm.within (h : fs.Firm q r names) (hw : Within r names fs fs') : fs'.Firm q r names :=
  fun _ h' => h _ (hw.trans h')

theorem Firm.mono (h : fs.Firm q r more) (hn : names ⊆ more) : fs.Firm q r names := fun _ hw => h _ (hw.mono hn)

/-- A path that leads there without the entries does not need them. -/
theorem Firm.of_free (hk : Within r names fs kept)
    (hf : ∀ a ∈ names, kept.node? (r ++ [a]) = none) (ho : kept.Opens q r) :
    fs.Firm q r names := by
  intro fs' h
  have hw := hk.symm.trans h
  exact ho.mono (hw.extends_of_free hf) hw.working

/-- If one of the entries is not needed and the others are free, none of them is needed. -/
theorem Firm.of_erased (hd : fs.shape? r = some .directory) (ha : a ∈ names)
    (hf : ∀ k ∈ names, k ≠ a → fs.node? (r ++ [k]) = none) (ho : (fs.erase (r ++ [a])).Opens q r) :
    fs.Firm q r names := by
  refine Firm.of_free ((Within.erase hd a).mono (by simpa using ha)) (fun k hk => ?_) ho
  rw [node?_erase_entry hd]
  split
  · rfl
  · rename_i hne
    exact hf k hk hne

/-- A path that needs neither of two entries leads there without both. -/
theorem Opens.without_both (hd : fs.shape? r = some .directory) (ha : (fs.erase (r ++ [a])).Opens q r)
    (hb : (fs.erase (r ++ [b])).Opens q r) : ((fs.erase (r ++ [a])).erase (r ++ [b])).Opens q r := by
  have hwa : Within r [a, b] fs (fs.erase (r ++ [a])) := (Within.erase hd a).mono (by simp)
  have hwb : Within r [a, b] fs (fs.erase (r ++ [b])) := (Within.erase hd b).mono (by simp)
  have hwab : Within r [a, b] (fs.erase (r ++ [a])) ((fs.erase (r ++ [a])).erase (r ++ [b])) :=
    (Within.erase ha.directory b).mono (by simp)
  have hfa : ∀ k, (fs.erase (r ++ [a])).node? (r ++ [k]) = _ := node?_erase_entry hd
  have hfb : ∀ k, (fs.erase (r ++ [b])).node? (r ++ [k]) = _ := node?_erase_entry hd
  have hfab : ∀ k, ((fs.erase (r ++ [a])).erase (r ++ [b])).node? (r ++ [k]) = _ := node?_erase_entry ha.directory
  refine ha.of_opens hwab.working (hwb.working.trans hwa.working.symm) ?_ ?_ hb
  · refine ((hwab.symm.trans hwa.symm).trans hwb).extends_of_free fun k hk => ?_
    rw [hfab, hfa]
    simp only [List.mem_cons, List.not_mem_nil, or_false] at hk
    rcases hk with rfl | rfl <;> simp
  · refine hwab.thins (hwa.symm.trans hwb) fun k hk => ?_
    simp only [List.mem_cons, List.not_mem_nil, or_false] at hk
    rcases hk with rfl | rfl
    · exact Or.inl (by rw [hfa, if_pos rfl])
    · exact Or.inr (by rw [hfb, if_pos rfl])

/-- If neither of two entries is needed and the others are free, none of them is needed. -/
theorem Firm.of_both_erased (hd : fs.shape? r = some .directory) (hma : a ∈ names) (hmb : b ∈ names)
    (hf : ∀ k ∈ names, k ≠ a → k ≠ b → fs.node? (r ++ [k]) = none) (ha : (fs.erase (r ++ [a])).Opens q r)
    (hb : (fs.erase (r ++ [b])).Opens q r) : fs.Firm q r names := by
  have hw : Within r names fs (fs.erase (r ++ [a])) := (Within.erase hd a).mono (by simpa using hma)
  have hfirm : (fs.erase (r ++ [a])).Firm q r names := by
    refine Firm.of_erased ha.directory hmb (fun k hk hkb => ?_) (Opens.without_both hd ha hb)
    rw [node?_erase_entry hd]
    split
    · rfl
    · rename_i hka
      exact hf k hk hka hkb
  exact hfirm.within hw.symm

/-! ## Two file systems side by side -/

/-- Two file systems have the same at some entries of a directory. -/
def Agree (r : Location) (names : List String) (fs₁ fs₂ : FileSystem) : Prop :=
  ∀ a ∈ names, fs₂.node? (r ++ [a]) = fs₁.node? (r ++ [a])

/-- **Two file systems that a call cannot tell apart** if it is only about some entries of a directory: the path leads
to that directory in both, whatever is done to the entries, and the entries are the same. -/
structure Twins (q : Path) (r : Location) (names : List String) (fs₁ fs₂ : FileSystem) : Prop where
  left : fs₁.Firm q r names
  right : fs₂.Firm q r names
  agree : Agree r names fs₁ fs₂

/-- **What a call does to two file systems side by side**: it has the same outcome in both, changes nothing beside some
entries of a directory, and leaves the same at these. -/
structure SideBySide (r : Location) (names : List String) (fs₁ fs₂ : FileSystem)
    (res₁ res₂ : FileSystem × Except IoFault Unit) : Prop where
  outcome : res₂.2 = res₁.2
  left : Within r names fs₁ res₁.1
  right : Within r names fs₂ res₂.1
  agree : Agree r names res₁.1 res₂.1

theorem Twins.mono (h : Twins q r more fs₁ fs₂) (hn : names ⊆ more) : Twins q r names fs₁ fs₂ :=
  ⟨h.left.mono hn, h.right.mono hn, fun a ha => h.agree a (hn ha)⟩

/-- A file system and one in which other entries have changed. -/
theorem Twins.of_within (hf : fs₁.Firm q r more) (hn : names ⊆ more) (ho : others ⊆ more)
    (hw : Within r others fs₁ fs₂) (hd : ∀ a ∈ names, a ∉ others) : Twins q r names fs₁ fs₂ :=
  ⟨hf.mono hn, (hf.within (hw.mono ho)).mono hn, fun a ha => hw.entry (hd a ha)⟩

/-- What a call leaves is alike again. -/
theorem SideBySide.twins (h : SideBySide r names fs₁ fs₂ res₁ res₂) (ht : Twins q r names fs₁ fs₂) :
    Twins q r names res₁.1 res₂.1 :=
  ⟨ht.left.within h.left, ht.right.within h.right, h.agree⟩

/-- Nothing happens in either. -/
theorem SideBySide.unchanged (h : Agree r names fs₁ fs₂) (outcome : Except IoFault Unit) :
    SideBySide r names fs₁ fs₂ (fs₁, outcome) (fs₂, outcome) :=
  ⟨rfl, Within.refl _ _ _, Within.refl _ _ _, h⟩

/-- Afterwards something else happens. -/
theorem SideBySide.trans (h : SideBySide r names fs₁ fs₂ res₁ res₂)
    (h' : SideBySide r names res₁.1 res₂.1 res₁' res₂') : SideBySide r names fs₁ fs₂ res₁' res₂' :=
  ⟨h'.outcome, h.left.trans h'.left, h.right.trans h'.right, h'.agree⟩

/-- More entries, which are left alone. -/
theorem SideBySide.mono (h : SideBySide r names fs₁ fs₂ res₁ res₂) (hn : names ⊆ more) (ha : Agree r more fs₁ fs₂) :
    SideBySide r more fs₁ fs₂ res₁ res₂ := by
  refine ⟨h.outcome, h.left.mono hn, h.right.mono hn, fun a hm => ?_⟩
  by_cases hk : a ∈ names
  · exact h.agree a hk
  · rw [h.left.entry hk, h.right.entry hk, ha a hm]

/-- **It does not matter which of two calls comes first** if they are about different entries of a directory: each has
the same outcome after the other one as before, and both orders leave the same. -/
theorem SideBySide.commute {first second firstLast secondLast : FileSystem × Except IoFault Unit}
    {here there : List String}
    (hd : ∀ a ∈ here, a ∉ there) (hf : SideBySide r here base second.1 first firstLast)
    (hs : SideBySide r there base first.1 second secondLast) :
    secondLast.2 = second.2 ∧ firstLast.2 = first.2 ∧ Same secondLast.1 firstLast.1 := by
  refine ⟨hs.outcome, hf.outcome, ?_, fun l => ?_⟩
  · rw [hf.right.working, hs.right.working, hf.left.working, hs.left.working]
  · by_cases hhere : ∃ a ∈ here, r ++ [a] <+: l
    · obtain ⟨a, ha, hp⟩ := hhere
      have hnode : firstLast.1.node? (r ++ [a]) = secondLast.1.node? (r ++ [a]) := by
        rw [hf.agree a ha, hs.right.entry (hd a ha)]
      rw [shape?, shape?, node?_congr_below hnode hp]
    by_cases hthere : ∃ a ∈ there, r ++ [a] <+: l
    · obtain ⟨a, ha, hp⟩ := hthere
      have hnode : firstLast.1.node? (r ++ [a]) = secondLast.1.node? (r ++ [a]) := by
        rw [hs.agree a ha, hf.right.entry fun hm => hd a hm ha]
      rw [shape?, shape?, node?_congr_below hnode hp]
    push Not at hhere hthere
    rw [hf.right.shape l hhere, hs.left.shape l hthere, hs.right.shape l hthere, hf.left.shape l hhere]

end FileSystem

end GraphDisk
