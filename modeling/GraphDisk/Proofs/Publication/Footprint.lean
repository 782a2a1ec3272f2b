import GraphDisk.Proofs.FileSystem.Footprint
import GraphDisk.Proofs.Publication.Failure
import GraphDisk.Proofs.Publication.History

/-!
# Publications beside each other

The calls of a publication are about three entries of the root: the staging directory, the name aside and the place of
the shard directory (`Publication.entryNames`). On file systems that cannot be told apart by these entries it does the
same (`Publication.run_sideBySide`), and so does every call on the way (`Call.AtEntries.perform`). Two things are needed
for that: the place is no symbolic link, which might lead to another entry, and the path to the root does not lead
through the three entries.
-/

namespace GraphDisk

open FileSystem (Within Agree Twins SideBySide)

variable {refused : Refusals} {fs₁ fs₂ base₁ base₂ a₁ a₂ : FileSystem} {q : Path} {r : Location} {names : List String}
  {a b x : String} {content : Content}

namespace FileSystem

/-! ## Changing the same entry in two file systems -/

section Agree

variable (h₁ : fs₁.shape? r = some .directory) (h₂ : fs₂.shape? r = some .directory) (h : Agree r names fs₁ fs₂)
include h₁ h₂ h

theorem Agree.put (a : String) (x : Node) : Agree r names (fs₁.put r a x) (fs₂.put r a x) := by
  intro k hk
  rw [node?_put_entry h₁, node?_put_entry h₂, h k hk]

theorem Agree.erase (a : String) : Agree r names (fs₁.erase (r ++ [a])) (fs₂.erase (r ++ [a])) := by
  intro k hk
  rw [node?_erase_entry h₁, node?_erase_entry h₂, h k hk]

end Agree

end FileSystem

namespace Call

/-! ## One call -/

/-- **The calls that are about some entries of a directory** and about nothing else. -/
inductive AtEntries (q : Path) (names : List String) : Call → Prop
  | makeDirectory {a : String} : IsEntryName a → a ∈ names → AtEntries q names (.makeDirectory (q.entry a))
  | rename {a b : String} : IsEntryName a → IsEntryName b → a ≠ b → a ∈ names → b ∈ names →
      AtEntries q names (.rename (q.entry a) (q.entry b))
  | removeTree {a : String} : IsEntryName a → a ∈ names → AtEntries q names (.removeTree (q.entry a))

/-- A call that does all or nothing, carried out in two file systems. -/
theorem sideBySide_settle {o₁ o₂ : Except IoFault FileSystem} (ha : Agree r names fs₁ fs₂)
    (h : (∃ fault, o₁ = .error fault ∧ o₂ = .error fault) ∨ ∃ a₁ a₂, o₁ = .ok a₁ ∧ o₂ = .ok a₂ ∧
      Within r names fs₁ a₁ ∧ Within r names fs₂ a₂ ∧ Agree r names a₁ a₂) :
    SideBySide r names fs₁ fs₂ (settle fs₁ o₁) (settle fs₂ o₂) := by
  rcases h with ⟨fault, rfl, rfl⟩ | ⟨a₁, a₂, rfl, rfl, hw₁, hw₂, hagree⟩
  · exact SideBySide.unchanged ha _
  · exact ⟨rfl, hw₁, hw₂, hagree⟩

section Twins

variable (ht : Twins q r names fs₁ fs₂)
include ht

theorem sideBySide_makeDirectory (ha : IsEntryName a) (hm : a ∈ names) : SideBySide r names fs₁ fs₂
    (settle fs₁ (fs₁.makeDirectory (q.entry a))) (settle fs₂ (fs₂.makeDirectory (q.entry a))) := by
  have hd₁ := ht.left.opens.directory
  have hd₂ := ht.right.opens.directory
  apply sideBySide_settle ht.agree
  unfold FileSystem.makeDirectory
  rw [ht.left.opens.place_entry ha, ht.right.opens.place_entry ha, FileSystem.lookAt_congr (ht.agree a hm)]
  cases hl : fs₁.lookAt q r a with
  | error fault => exact Or.inl ⟨fault, rfl, rfl⟩
  | ok t =>
    obtain ⟨-, -, rfl⟩ := FileSystem.lookAt_ok hl
    cases hx : fs₁.node? (r ++ [a]) with
    | some y =>
      rw [FileSystem.targetAt_some hx]
      exact Or.inl ⟨.alreadyExists, rfl, rfl⟩
    | none =>
      rw [FileSystem.targetAt_none hx]
      refine Or.inr ⟨_, _, rfl, rfl, ?_, ?_, ht.agree.put hd₁ hd₂ a _⟩
      · exact (Within.put hd₁ a _).mono (by simpa using hm)
      · exact (Within.put hd₂ a _).mono (by simpa using hm)

theorem sideBySide_removeTree (ha : IsEntryName a) (hm : a ∈ names) : SideBySide r names fs₁ fs₂
    (settle fs₁ (fs₁.removeTree (q.entry a))) (settle fs₂ (fs₂.removeTree (q.entry a))) := by
  have hd₁ := ht.left.opens.directory
  have hd₂ := ht.right.opens.directory
  have herased : SideBySide r names fs₁ fs₂ (fs₁.erase (r ++ [a]), .ok ()) (fs₂.erase (r ++ [a]), .ok ()) :=
    ⟨rfl, (Within.erase hd₁ a).mono (by simpa using hm), (Within.erase hd₂ a).mono (by simpa using hm),
      ht.agree.erase hd₁ hd₂ a⟩
  unfold FileSystem.removeTree
  rw [ht.left.opens.lookup_entry ha (Or.inl rfl), ht.right.opens.lookup_entry ha (Or.inl rfl),
    FileSystem.lookAt_congr (ht.agree a hm)]
  cases hl : fs₁.lookAt q r a with
  | error fault => exact SideBySide.unchanged ht.agree _
  | ok t =>
    obtain ⟨-, -, rfl⟩ := FileSystem.lookAt_ok hl
    cases hx : fs₁.node? (r ++ [a]) with
    | none =>
      rw [FileSystem.targetAt_none hx]
      exact SideBySide.unchanged ht.agree _
    | some y =>
      rw [FileSystem.targetAt_some hx]
      cases y with
      | file content => exact SideBySide.unchanged ht.agree _
      | link target => exact herased
      | directory entries => exact herased

theorem sideBySide_rename (ha : IsEntryName a) (hb : IsEntryName b) (hab : a ≠ b) (hma : a ∈ names) (hmb : b ∈ names) :
    SideBySide r names fs₁ fs₂ (settle fs₁ (fs₁.rename (q.entry a) (q.entry b)))
      (settle fs₂ (fs₂.rename (q.entry a) (q.entry b))) := by
  have hd₁ := ht.left.opens.directory
  have hd₂ := ht.right.opens.directory
  have hpa₁ := ht.left.opens.place_entry ha
  have hpb₁ := ht.left.opens.place_entry hb
  have hpa₂ := (ht.right.opens.place_entry ha).trans (FileSystem.lookAt_congr (ht.agree a hma))
  have hpb₂ := (ht.right.opens.place_entry hb).trans (FileSystem.lookAt_congr (ht.agree b hmb))
  apply sideBySide_settle ht.agree
  cases hla : fs₁.lookAt q r a with
  | error fault =>
    rw [hla] at hpa₁ hpa₂
    unfold FileSystem.rename
    rw [hpa₁, hpa₂]
    exact Or.inl ⟨fault, rfl, rfl⟩
  | ok t =>
    obtain ⟨hca, hsa, -⟩ := FileSystem.lookAt_ok hla
    cases hlb : fs₁.lookAt q r b with
    | error fault =>
      rw [hla] at hpa₁ hpa₂
      rw [hlb] at hpb₁ hpb₂
      unfold FileSystem.rename
      rw [hpa₁, hpa₂, hpb₁, hpb₂]
      exact Or.inl ⟨fault, rfl, rfl⟩
    | ok u =>
      obtain ⟨hcb, hsb, -⟩ := FileSystem.lookAt_ok hlb
      rw [FileSystem.rename_eq ha hb hab ⟨hca, ht.left.opens, hsa⟩ ⟨hcb, ht.left.opens, hsb⟩,
        FileSystem.rename_eq ha hb hab ⟨hca, ht.right.opens, hsa⟩ ⟨hcb, ht.right.opens, hsb⟩,
        ht.agree a hma, ht.agree b hmb]
      cases fs₁.node? (r ++ [a]) with
      | none => exact Or.inl ⟨.notFound, rfl, rfl⟩
      | some y =>
        cases hobstacle : (fs₁.node? (r ++ [b])).bind (FileSystem.obstacle? y) with
        | some fault => exact Or.inl ⟨fault, by simp only [hobstacle], by simp only [hobstacle]⟩
        | none =>
          simp only [hobstacle]
          refine Or.inr ⟨_, _, rfl, rfl, ?_, ?_, ?_⟩
          · exact (Within.move hd₁ a b y).mono (by simp [hma, hmb])
          · exact (Within.move hd₂ a b y).mono (by simp [hma, hmb])
          · exact (ht.agree.erase hd₁ hd₂ a).put (FileSystem.shape?_erase_directory hd₁)
              (FileSystem.shape?_erase_directory hd₂) b y

/-- **A call about some entries does the same to file systems that cannot be told apart by them.** -/
theorem AtEntries.perform {c : Call} (hc : c.AtEntries q names) :
    SideBySide r names fs₁ fs₂ (c.perform fs₁) (c.perform fs₂) := by
  cases hc with
  | makeDirectory ha hm => exact sideBySide_makeDirectory ht ha hm
  | rename ha hb hab hma hmb => exact sideBySide_rename ht ha hb hab hma hmb
  | removeTree ha hm => exact sideBySide_removeTree ht ha hm

end Twins

/-- A call that is refused does nothing in either. -/
theorem sideBySide_attempt {c : Call} (ha : Agree r names fs₁ fs₂)
    (h : SideBySide r names fs₁ fs₂ (c.perform fs₁) (c.perform fs₂)) :
    SideBySide r names fs₁ fs₂ (c.attempt refused fs₁) (c.attempt refused fs₂) := by
  unfold attempt
  cases refused c with
  | some fault => exact SideBySide.unchanged ha _
  | none => exact h

/-! ## Some calls -/

/-- Calls that are carried out whether they fail or not, before something that has a fixed outcome. -/
theorem sideBySide_attemptAll (outcome : Except IoFault Unit) : ∀ (calls : List Call) {fs₁ fs₂ : FileSystem},
    Twins q r names fs₁ fs₂ → (∀ c ∈ calls, c.AtEntries q names) → SideBySide r names fs₁ fs₂
      (attemptAll refused fs₁ calls, outcome) (attemptAll refused fs₂ calls, outcome)
  | [], _, _, ht, _ => SideBySide.unchanged ht.agree outcome
  | c :: rest, fs₁, fs₂, ht, hc => by
    have hfirst : SideBySide r names fs₁ fs₂ (c.attempt refused fs₁) (c.attempt refused fs₂) :=
      sideBySide_attempt ht.agree ((hc c List.mem_cons_self).perform ht)
    exact hfirst.trans (sideBySide_attemptAll outcome rest (hfirst.twins ht) fun d hd =>
      hc d (List.mem_cons_of_mem _ hd))

end Call

namespace Step

/-- A step, and those after it if it succeeds. -/
theorem sideBySide_cons {s : Step} {rest : List Step} (ht : Twins q r names fs₁ fs₂)
    (hs : SideBySide r names fs₁ fs₂ (s.call.perform fs₁) (s.call.perform fs₂))
    (hundo : ∀ c ∈ s.undo, c.AtEntries q names)
    (hrest : ∀ a₁ a₂, Twins q r names a₁ a₂ → s.call.perform fs₁ = (a₁, .ok ()) → s.call.perform fs₂ = (a₂, .ok ()) →
      SideBySide r names a₁ a₂ (runAll refused a₁ rest) (runAll refused a₂ rest)) :
    SideBySide r names fs₁ fs₂ (runAll refused fs₁ (s :: rest)) (runAll refused fs₂ (s :: rest)) := by
  have hattempt : SideBySide r names fs₁ fs₂ (s.call.attempt refused fs₁) (s.call.attempt refused fs₂) :=
    Call.sideBySide_attempt ht.agree hs
  have htwins := hattempt.twins ht
  have houtcome := hattempt.outcome
  unfold runAll
  rcases h₁ : s.call.attempt refused fs₁ with ⟨a₁, fault | ⟨⟩⟩
  · rcases h₂ : s.call.attempt refused fs₂ with ⟨a₂, fault' | ⟨⟩⟩
    · rw [h₁, h₂] at houtcome
      cases houtcome
      rw [h₁, h₂] at hattempt htwins
      exact hattempt.trans (Call.sideBySide_attemptAll _ _ htwins hundo)
    · rw [h₁, h₂] at houtcome
      cases houtcome
  · rcases h₂ : s.call.attempt refused fs₂ with ⟨a₂, fault' | ⟨⟩⟩
    · rw [h₁, h₂] at houtcome
      cases houtcome
    · rw [h₁, h₂] at hattempt htwins
      exact hattempt.trans (hrest a₁ a₂ htwins (Call.attempt_ok h₁).2 (Call.attempt_ok h₂).2)

/-- Steps all of whose calls are about some entries. -/
theorem sideBySide_runAll : ∀ (steps : List Step) {fs₁ fs₂ : FileSystem}, Twins q r names fs₁ fs₂ →
    (∀ s ∈ steps, s.call.AtEntries q names ∧ ∀ c ∈ s.undo, c.AtEntries q names) →
    SideBySide r names fs₁ fs₂ (runAll refused fs₁ steps) (runAll refused fs₂ steps)
  | [], _, _, ht, _ => SideBySide.unchanged ht.agree _
  | s :: rest, fs₁, fs₂, ht, hs => by
    obtain ⟨hcall, hundo⟩ := hs s List.mem_cons_self
    refine sideBySide_cons ht (hcall.perform ht) hundo fun a₁ a₂ htwins _ _ => ?_
    exact sideBySide_runAll rest htwins fun t hm => hs t (List.mem_cons_of_mem _ hm)

end Step

namespace Publication

variable {p : Publication} {entries : Directory}

/-! ## The assembly -/

/-- A file is written into two staging directories with the same files. -/
theorem Staged.sideBySide_write (h₁ : Staged p base₁ fs₁ r entries)
    (h₂ : Staged p base₂ fs₂ r entries) (hn : p.WellNamed)
    (hx : IsEntryName x) (hl : ∀ target, entries.find? x ≠ some (.link target)) :
    SideBySide r [p.stagingName] fs₁ fs₂ ((Call.writeFile (p.staging.entry x) content).perform fs₁)
      ((Call.writeFile (p.staging.entry x) content).perform fs₂) := by
  have ho₁ := h₁.opens_staging hn
  have ho₂ := h₂.opens_staging hn
  have hnode₁ : fs₁.node? (r ++ [p.stagingName] ++ [x]) = entries.find? x := FileSystem.node?_entry h₁.staged x
  have hnode₂ : fs₂.node? (r ++ [p.stagingName] ++ [x]) = entries.find? x := FileSystem.node?_entry h₂.staged x
  have hlink : ∀ {fs : FileSystem}, fs.node? (r ++ [p.stagingName] ++ [x]) = entries.find? x →
      ∀ target, fs.shape? (r ++ [p.stagingName] ++ [x]) ≠ some (.link target) := by
    intro fs hnode target ht
    exact hl target (hnode.symm.trans (FileSystem.node?_of_link ht))
  have hagree : Agree r [p.stagingName] fs₁ fs₂ := by
    intro k hk
    rw [List.mem_singleton.mp hk, h₁.staged, h₂.staged]
  apply Call.sideBySide_settle hagree
  unfold FileSystem.writeFile
  rw [ho₁.placeFile_entry hx (hlink hnode₁), ho₂.placeFile_entry hx (hlink hnode₂),
    FileSystem.lookAt_congr (hnode₂.trans hnode₁.symm)]
  cases hlook : fs₁.lookAt p.staging (r ++ [p.stagingName]) x with
  | error fault => exact Or.inl ⟨fault, rfl, rfl⟩
  | ok t =>
    have hput : Agree r [p.stagingName] (fs₁.put (r ++ [p.stagingName]) x (.file content))
        (fs₂.put (r ++ [p.stagingName]) x (.file content)) := by
      intro k hk
      rw [List.mem_singleton.mp hk, h₁.node?_put, h₂.node?_put]
    have hw₁ := (Within.put ho₁.directory x (.file content)).outer
    have hw₂ := (Within.put ho₂.directory x (.file content)).outer
    obtain ⟨-, -, rfl⟩ := FileSystem.lookAt_ok hlook
    cases hy : fs₁.node? (r ++ [p.stagingName] ++ [x]) with
    | none =>
      rw [FileSystem.targetAt_none hy]
      exact Or.inr ⟨_, _, rfl, rfl, hw₁, hw₂, hput⟩
    | some y =>
      rw [FileSystem.targetAt_some hy]
      cases y with
      | file old =>
        simp only [bind, Except.bind, List.getLast?_concat, List.dropLast_concat]
        exact Or.inr ⟨_, _, rfl, rfl, hw₁, hw₂, hput⟩
      | directory old => exact Or.inl ⟨.isDirectory, rfl, rfl⟩
      | link target => exact absurd (FileSystem.shape?_of_node? hy) (hlink hnode₁ target)

/-- Two roots that are there: making them changes nothing. -/
theorem sideBySide_makeRoot (ht : Twins p.root r names fs₁ fs₂) :
    SideBySide r names fs₁ fs₂ ((Call.makeDirectories p.root).perform fs₁)
      ((Call.makeDirectories p.root).perform fs₂) := by
  show SideBySide r names fs₁ fs₂ (fs₁.makeDirectories p.root) (fs₂.makeDirectories p.root)
  rw [FileSystem.makeDirectories_eq_of_opens ht.left.opens, FileSystem.makeDirectories_eq_of_opens ht.right.opens]
  exact SideBySide.unchanged ht.agree _

/-- **An assembly is about the staging directory.** -/
theorem sideBySide_assembly (hn : p.WellNamed) (ht : Twins p.root r [p.stagingName] fs₁ fs₂) :
    SideBySide r [p.stagingName] fs₁ fs₂ (Step.runAll refused fs₁ p.assembly) (Step.runAll refused fs₂ p.assembly) := by
  have hmem : p.stagingName ∈ [p.stagingName] := List.mem_singleton.mpr rfl
  have hremoval : ∀ c ∈ [p.removal], c.AtEntries p.root [p.stagingName] := by
    intro c hc
    rw [List.mem_singleton.mp hc]
    exact .removeTree hn.staging hmem
  refine Step.sideBySide_cons ht (sideBySide_makeRoot ht) (by simp) fun c₁ c₂ ht _ _ => ?_
  refine Step.sideBySide_cons ht (Call.sideBySide_makeDirectory ht hn.staging hmem) (by simp) fun d₁ d₂ ht h₁ h₂ => ?_
  obtain ⟨r₁, hs₁⟩ := Staged.of_makeDirectory hn (Call.settle_ok.mp h₁)
  obtain ⟨r₂, hs₂⟩ := Staged.of_makeDirectory hn (Call.settle_ok.mp h₂)
  obtain rfl := ht.left.opens.unique hs₁.opens
  obtain rfl := ht.right.opens.unique hs₂.opens
  refine Step.sideBySide_cons ht (hs₁.sideBySide_write hs₂ hn isEntryName_partFileName (by simp)) hremoval
    fun e₁ e₂ ht h₁ h₂ => ?_
  have hs₁ := hs₁.write hn isEntryName_partFileName (by simp) (Call.settle_ok.mp h₁)
  have hs₂ := hs₂.write hn isEntryName_partFileName (by simp) (Call.settle_ok.mp h₂)
  refine Step.sideBySide_cons ht (hs₁.sideBySide_write hs₂ hn hn.marker (unfinished_no_link p))
    hremoval fun f₁ f₂ ht _ _ => ?_
  exact SideBySide.unchanged ht.agree _

/-! ## The swap -/

theorem mem_entryNames (p : Publication) :
    p.stagingName ∈ p.entryNames ∧ asideName p.stagingName ∈ p.entryNames ∧ p.name ∈ p.entryNames := by
  simp [entryNames]

theorem atEntries_swap (hn : p.WellNamed) (occupied : Bool) : ∀ s ∈ p.swap occupied,
    s.call.AtEntries p.root p.entryNames ∧ ∀ c ∈ s.undo, c.AtEntries p.root p.entryNames := by
  obtain ⟨hstaging, haside, hname⟩ := p.mem_entryNames
  have hremoval : Call.AtEntries p.root p.entryNames p.removal := .removeTree hn.staging hstaging
  have hrestoration : Call.AtEntries p.root p.entryNames p.restoration :=
    .rename hn.aside hn.name hn.aside_ne haside hname
  have hmove : Call.AtEntries p.root p.entryNames (.rename p.staging p.target) :=
    .rename hn.staging hn.name hn.staging_ne hstaging hname
  have haway : Call.AtEntries p.root p.entryNames (.rename p.target p.aside) :=
    .rename hn.name hn.aside hn.aside_ne.symm hname haside
  cases occupied with
  | false => exact List.forall_mem_singleton.mpr ⟨hmove, List.forall_mem_singleton.mpr hremoval⟩
  | true =>
    refine List.forall_mem_cons.mpr ⟨⟨haway, List.forall_mem_singleton.mpr hremoval⟩,
      List.forall_mem_singleton.mpr ⟨hmove, ?_⟩⟩
    exact List.forall_mem_cons.mpr ⟨hrestoration, List.forall_mem_singleton.mpr hremoval⟩

theorem atEntries_cleanUp (hn : p.WellNamed) (occupied : Bool) :
    ∀ c ∈ p.cleanUp occupied, c.AtEntries p.root p.entryNames := by
  cases occupied with
  | false => simp [cleanUp]
  | true =>
    intro c hc
    rw [List.mem_singleton.mp hc]
    exact .removeTree hn.aside p.mem_entryNames.2.1

/-- A publication does the same to two file systems if what is found at its place after the assembly is the same. -/
theorem run_sideBySide_of_exists (hn : p.WellNamed) (ht : Twins p.root r p.entryNames fs₁ fs₂)
    (hexists : ∀ b₁ b₂, Step.runAll refused fs₁ p.assembly = (b₁, .ok ()) →
      Step.runAll refused fs₂ p.assembly = (b₂, .ok ()) →
      b₂.exists? p.target = b₁.exists? p.target) :
    SideBySide r p.entryNames fs₁ fs₂ (p.run refused fs₁) (p.run refused fs₂) := by
  have hsub : [p.stagingName] ⊆ p.entryNames := by simp [entryNames]
  have hassembly :
      SideBySide r p.entryNames fs₁ fs₂ (Step.runAll refused fs₁ p.assembly) (Step.runAll refused fs₂ p.assembly) :=
    (sideBySide_assembly hn (ht.mono hsub)).mono hsub ht.agree
  have htwins := hassembly.twins ht
  have houtcome := hassembly.outcome
  unfold run
  rcases h₁ : Step.runAll refused fs₁ p.assembly with ⟨b₁, fault | ⟨⟩⟩
  · rcases h₂ : Step.runAll refused fs₂ p.assembly with ⟨b₂, fault' | ⟨⟩⟩
    · rw [h₁, h₂] at hassembly
      exact hassembly
    · rw [h₁, h₂] at houtcome
      cases houtcome
  · rcases h₂ : Step.runAll refused fs₂ p.assembly with ⟨b₂, fault' | ⟨⟩⟩
    · rw [h₁, h₂] at houtcome
      cases houtcome
    · rw [h₁, h₂] at hassembly htwins
      simp only [hexists b₁ b₂ h₁ h₂]
      have hswap : SideBySide r p.entryNames b₁ b₂ (Step.runAll refused b₁ (p.swap (b₁.exists? p.target)))
          (Step.runAll refused b₂ (p.swap (b₁.exists? p.target))) :=
        Step.sideBySide_runAll _ htwins (atEntries_swap hn _)
      have hswapped := hswap.twins htwins
      have houtcome := hswap.outcome
      refine hassembly.trans ?_
      rcases h₃ : Step.runAll refused b₁ (p.swap (b₁.exists? p.target)) with ⟨c₁, fault | ⟨⟩⟩
      · rcases h₄ : Step.runAll refused b₂ (p.swap (b₁.exists? p.target)) with ⟨c₂, fault' | ⟨⟩⟩
        · rw [h₃, h₄] at hswap
          exact hswap
        · rw [h₃, h₄] at houtcome
          cases houtcome
      · rcases h₄ : Step.runAll refused b₂ (p.swap (b₁.exists? p.target)) with ⟨c₂, fault' | ⟨⟩⟩
        · rw [h₃, h₄] at houtcome
          cases houtcome
        · rw [h₃, h₄] at hswap hswapped
          exact hswap.trans (Call.sideBySide_attemptAll _ _ hswapped (atEntries_cleanUp hn _))

/-- **A publication does the same to file systems that cannot be told apart by its entries**, if no link is at its
place. -/
theorem run_sideBySide (hn : p.WellNamed) (ht : Twins p.root r p.entryNames fs₁ fs₂)
    (hl : ∀ target, fs₁.shape? (r ++ [p.name]) ≠ some (.link target)) :
    SideBySide r p.entryNames fs₁ fs₂ (p.run refused fs₁) (p.run refused fs₂) := by
  have hsub : [p.stagingName] ⊆ p.entryNames := by simp [entryNames]
  have hbeside : p.name ∉ [p.stagingName] := by simpa using hn.staging_ne.symm
  have hassembly :
      SideBySide r [p.stagingName] fs₁ fs₂ (Step.runAll refused fs₁ p.assembly) (Step.runAll refused fs₂ p.assembly) :=
    sideBySide_assembly hn (ht.mono hsub)
  have htwins := (hassembly.mono hsub ht.agree).twins ht
  refine run_sideBySide_of_exists hn ht fun b₁ b₂ h₁ h₂ => ?_
  rw [h₁, h₂] at hassembly htwins
  have hplain : ∀ target, b₁.shape? (r ++ [p.name]) ≠ some (.link target) := by
    intro target
    rw [FileSystem.shape?, hassembly.left.entry hbeside]
    exact hl target
  unfold FileSystem.exists? target
  rw [FileSystem.find_congr htwins.left.opens htwins.right.opens hn.name (htwins.agree _ p.mem_entryNames.2.2) hplain]

/-- **A publication changes its entries only.** -/
theorem run_within (hn : p.WellNamed) (hf : fs₁.Firm p.root r p.entryNames) :
    Within r p.entryNames fs₁ (p.run refused fs₁).1 := by
  refine (run_sideBySide_of_exists hn ⟨hf, hf, fun _ _ => rfl⟩ fun b₁ b₂ h₁ h₂ => ?_).left
  rw [h₁] at h₂
  cases h₂
  rfl

/-! ## Making the root -/

/-- **The root can be made or nothing is made of it**: whether it was there or not, the first call leaves nothing
halfway. -/
def RootSettled (root : Path) (fs : FileSystem) : Prop :=
  (fs.makeDirectories root).2 = .ok () ∨ (fs.makeDirectories root).1 = fs

/-- The root is there once it has been made. -/
def RootMade (root : Path) (fs : FileSystem) (r : Location) : Prop :=
  (fs.makeDirectories root).2 = .ok () ∧ (fs.makeDirectories root).1.Opens root r

variable {fs : FileSystem} {fault : IoFault}

theorem run_of_refused (h : refused (.makeDirectories p.root) = some fault) (fs : FileSystem) :
    p.run refused fs = (fs, .error fault) := by
  have hcall : (Call.makeDirectories p.root).attempt refused fs = (fs, .error fault) := by rw [Call.attempt, h]
  unfold run assembly
  rw [Step.runAll_cons_of_attempt_error hcall]
  rfl

/-- Where the root has been made, it makes no difference whether it was there before. -/
theorem run_ready (h : refused (.makeDirectories p.root) = none) (hr : RootMade p.root fs r) :
    p.run refused fs = p.run refused (p.ready fs) := by
  have hfirst : (Call.makeDirectories p.root).perform fs = (p.ready fs, .ok ()) := Prod.ext rfl hr.1
  have hagain : (Call.makeDirectories p.root).perform (p.ready fs) = (p.ready fs, .ok ()) :=
    FileSystem.makeDirectories_again hfirst hr.2
  unfold run assembly
  rw [Step.runAll_cons_of_ok h hfirst, Step.runAll_cons_of_ok h hagain]

/-- Without a root nothing happens. -/
theorem run_of_no_root (hn : p.WellNamed) (hs : RootSettled p.root fs) (hr : ∀ r, ¬ RootMade p.root fs r) :
    (p.run refused fs).1 = fs := by
  have hready : p.ready fs = fs := by
    rcases hs with hok | hsame
    · by_cases he : p.root.text = ""
      · unfold ready FileSystem.makeDirectories Path.chain
        rw [if_pos he]
        rfl
      · obtain ⟨r, ho⟩ := FileSystem.opens_of_makeDirectories he (Prod.ext rfl hok)
        exact absurd ⟨hok, ho⟩ (hr r)
    · exact hsame
  have hfirst : ∀ after, (Call.makeDirectories p.root).attempt refused fs = (after, .ok ()) →
      ∀ r, ¬ (p.ready fs).Opens p.root r := by
    intro after h r ho
    have hperform := (Call.attempt_ok h).2
    exact hr r ⟨congrArg Prod.snd hperform, ho⟩
  unfold run
  rcases h : Step.runAll refused fs p.assembly with ⟨after, fault | ⟨⟩⟩
  · show after = fs
    rcases hcall : (Call.makeDirectories p.root).attempt refused fs with ⟨first, fault | ⟨⟩⟩
    · unfold assembly at h
      rw [Step.runAll_cons_of_attempt_error hcall] at h
      cases h
      show first = fs
      rcases Call.attempt_cases refused fs (.makeDirectories p.root) with hc | hc
      · exact (congrArg Prod.fst hcall).symm.trans hc
      · exact ((congrArg Prod.fst hcall).symm.trans hc).trans hready
    · have hno := hfirst first hcall
      have habandoned := assembly_error hn h
      generalize Step.failures refused fs p.assembly = calls at habandoned
      cases habandoned with
      | root h => exact h.elim id fun h => h.trans hready
      | staging => exact hready
      | @staged _ r _ _ hs _ _ => exact absurd hs.opens_base (hno r)
      | @aside _ _ r hs _ => exact absurd hs.opens_base (hno r)
  · obtain ⟨first, hcall, -⟩ := Step.runAll_cons_ok h
    obtain ⟨r, hs⟩ := assembly_ok hn h
    exact absurd hs.opens_base (hfirst first hcall r)

/-! ## Two publications -/

variable {other : Publication} {refused' : Refusals}

/-- **Two publications in one root do not notice each other** if their entries are different, the root does not need the
places, and no links are there. -/
theorem run_commute (hn : p.WellNamed) (hn' : other.WellNamed) (hroot : other.root = p.root)
    (hd : ∀ x ∈ p.entryNames, x ∉ other.entryNames) (hs : RootSettled p.root fs)
    (hfirm : ∀ r, RootMade p.root fs r → (p.ready fs).Firm p.root r (p.entryNames ++ other.entryNames))
    (hl : ∀ r, RootMade p.root fs r → ∀ target, (p.ready fs).shape? (r ++ [p.name]) ≠ some (.link target))
    (hl' : ∀ r, RootMade p.root fs r → ∀ target, (p.ready fs).shape? (r ++ [other.name]) ≠ some (.link target)) :
    (other.run refused' (p.run refused fs).1).2 = (other.run refused' fs).2 ∧
    (p.run refused (other.run refused' fs).1).2 = (p.run refused fs).2 ∧
    FileSystem.Same (other.run refused' (p.run refused fs).1).1 (p.run refused (other.run refused' fs).1).1 := by
  cases hrefused : refused (.makeDirectories p.root) with
  | some fault =>
    rw [run_of_refused hrefused, run_of_refused hrefused]
    exact ⟨rfl, rfl, .refl _⟩
  | none =>
  cases hrefused' : refused' (.makeDirectories other.root) with
  | some fault =>
    rw [run_of_refused hrefused', run_of_refused hrefused']
    exact ⟨rfl, rfl, .refl _⟩
  | none =>
  by_cases hmade : ∃ r, RootMade p.root fs r
  · obtain ⟨r, hr⟩ := hmade
    have hready : other.ready fs = p.ready fs := by rw [ready, ready, hroot]
    have hr' : RootMade other.root fs r := by rw [hroot]; exact hr
    have hfirm := hfirm r hr
    have hsub : p.entryNames ⊆ p.entryNames ++ other.entryNames := List.subset_append_left _ _
    have hsub' : other.entryNames ⊆ p.entryNames ++ other.entryNames := List.subset_append_right _ _
    have hfirm' : (p.ready fs).Firm other.root r (p.entryNames ++ other.entryNames) := by rw [hroot]; exact hfirm
    -- on the way from the root that has been made, each of the two finds the other's entries changed and its own as
    -- they were
    have hw : Within r p.entryNames (p.ready fs) (p.run refused (p.ready fs)).1 :=
      run_within hn (hfirm.mono hsub)
    have hw' : Within r other.entryNames (p.ready fs) (other.run refused' (p.ready fs)).1 :=
      run_within hn' (hfirm'.mono hsub')
    have htwins := Twins.of_within hfirm hsub hsub' hw' hd
    have htwins' := Twins.of_within hfirm' hsub' hsub hw fun x hx hm => hd x hm hx
    rw [run_ready hrefused hr, run_ready hrefused' hr', hready]
    exact SideBySide.commute hd (run_sideBySide hn htwins (hl r hr)) (run_sideBySide hn' htwins' (hl' r hr))
  · push Not at hmade
    have hidle : (p.run refused fs).1 = fs := run_of_no_root hn hs hmade
    have hidle' : (other.run refused' fs).1 = fs :=
      run_of_no_root hn' (by rw [hroot]; exact hs) (by rw [hroot]; exact hmade)
    rw [hidle, hidle', hidle]
    exact ⟨rfl, rfl, .refl _⟩

end Publication

end GraphDisk
