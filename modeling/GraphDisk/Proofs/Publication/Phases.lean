import GraphDisk.Proofs.Publication.History
import GraphDisk.Proofs.Publication.Restored

/-!
# The phases of a publication

At every moment of a publication its place is in one of three conditions: it is as it was once the root had been made
(`Publication.AsBefore`), it is empty while what was there lies aside (`Publication.MovedAside`), or it has the complete
directory (`Publication.InPlace`). `Publication.phases_trace` says in which order these follow each other: after the
root has been made the place is as before, then it may be empty, and then it stays complete, or as before if the
publication was taken back.
-/

namespace GraphDisk

open FileSystem (Within Grows Extends Thins)

namespace FileSystem

variable {fs fs' : FileSystem} {q : Path} {r : Location} {a : String}

/-- An entry that is the same in two file systems is placed in the same way. -/
theorem place_entry_congr (ho : fs.Opens q r) (ho' : fs'.Opens q r) (ha : IsEntryName a)
    (h : fs'.node? (r ++ [a]) = fs.node? (r ++ [a])) : fs'.place (q.entry a) = fs.place (q.entry a) := by
  rw [ho.place_entry ha, ho'.place_entry ha, lookAt_congr h]

end FileSystem

namespace Publication

variable {p : Publication} {refused : Refusals} {moments : Moments}
  {fs fs₀ fs' base after s : FileSystem} {r : Location}
  {entries : Directory} {x : String} {content : Content} {old : Node}

/-! ## Three conditions of the place -/

/-- The place of the shard directory is as it was. -/
def AsBefore (p : Publication) (base s : FileSystem) : Prop := s.place p.target = base.place p.target

/-- **The place of the shard directory is empty, and what was there lies aside**, as it was. -/
def MovedAside (p : Publication) (base s : FileSystem) : Prop :=
  Absent s p.target ∧ ∃ r old, base.Opens p.root r ∧ base.place p.target = .ok (.found (r ++ [p.name]) old) ∧
    s.node? (r ++ [p.name]) = none ∧ s.node? (r ++ [asideName p.stagingName]) = some old

/-- **The complete shard directory is at its place.** -/
def InPlace (p : Publication) (base s : FileSystem) : Prop :=
  ∃ r, base.Opens p.root r ∧ s.place p.target = .ok (.found (r ++ [p.name]) (.directory p.complete))

theorem asBefore_of_within {names : List String} (hn : p.WellNamed) (hw : Within r names base s)
    (ho : base.Opens p.root r) (ho' : s.Opens p.root r) (hname : p.name ∉ names) : p.AsBefore base s :=
  FileSystem.place_entry_congr ho ho' hn.name (hw.entry hname)

theorem asBefore_of_unchanged (hn : p.WellNamed) (hw : Within r [] base s) (ho : base.Opens p.root r) :
    p.AsBefore base s :=
  asBefore_of_within hn hw ho (opens_of_unchanged hw ho) (by simp)

theorem Published.inPlace (h : Published p base s r) (hn : p.WellNamed) (ho : base.Opens p.root r) :
    p.InPlace base s := by
  refine ⟨r, ho, ?_⟩
  rw [target, h.reaches.place hn.name, FileSystem.targetAt_some h.published]

/-! ## While the staging directory is there -/

theorem Staged.asBefore (h : Staged p base fs r entries) (hn : p.WellNamed) : p.AsBefore base fs :=
  asBefore_of_within hn h.within h.opens_base h.opens (by simpa using hn.staging_ne.symm)

/-- While a file is written into the staging directory. -/
theorem Staged.asBefore_midway_write (h : Staged p base fs r entries) (hn : p.WellNamed) (hx : IsEntryName x)
    (hl : ∀ target, entries.find? x ≠ some (.link target))
    (hs : (Call.writeFile (p.staging.entry x) content).Midway fs s) : p.AsBefore base s := by
  cases hs with
  | writeFile size hw => exact (h.write hn hx hl hw).asBefore hn

/-- While the staging directory is removed. -/
theorem Staged.asBefore_midway_removal (h : Staged p base fs r entries) (hn : p.WellNamed)
    (hs : p.removal.Midway fs s) :
    p.AsBefore base s := by
  obtain ⟨r', left, hr, hd, rfl⟩ := midway_removeTree hn.staging hs
  obtain rfl := h.opens.unique hr.opens
  have hmidway : Staged p base (fs.update (fun _ => left) (r ++ [p.stagingName])) r left := by
    constructor
    · exact h.reaches
    · exact h.free
    · exact h.within.trans (Within.update _ _ _ _)
    · exact FileSystem.node?_update_self _ hd
  exact hmidway.asBefore hn

theorem Staged.trace_removal (h : Staged p base fs r entries) (hn : p.WellNamed) (hm : moments.Possible) :
    ∀ s ∈ Call.traceAll moments refused fs [p.removal], p.AsBefore base s := by
  unfold Call.traceAll Call.traceAll
  rw [List.append_nil]
  refine Call.forall_mem_trace hm (fun s hs => h.asBefore_midway_removal hn hs) ?_
  rcases hc : p.removal.attempt refused fs with ⟨after, fault | ⟨⟩⟩
  · rw [Call.attempt_error (by simp [removal]) hc]
    exact h.asBefore hn
  · have hremoved := h.removed hn (Call.settle_ok.mp (Call.attempt_ok hc).2)
    exact asBefore_of_unchanged hn hremoved h.opens_base

/-- A rename that fails while the staging directory is there is taken back. -/
theorem Staged.trace_rename_failed {source destination : Path} {fault : IoFault} {rest : List Step}
    (h : Staged p base fs r entries) (hn : p.WellNamed) (hm : moments.Possible)
    (hc : (Call.rename source destination).attempt refused fs = (fs', .error fault)) :
    ∀ s ∈ Step.trace moments refused fs (⟨.rename source destination, [p.removal]⟩ :: rest), p.AsBefore base s := by
  have hsame := Call.attempt_error (by simp) hc
  rw [Step.trace_cons_error hc, Call.trace_rename hm, hc, hsame]
  exact List.forall_mem_append.mpr ⟨by simpa using h.asBefore hn, h.trace_removal hn hm⟩

/-- A step that writes a file into the staging directory: the place is as before on the way and afterwards, also if the
step fails and is taken back. -/
theorem Staged.trace_write {rest : List Step} (h : Staged p base fs r entries)
    (hn : p.WellNamed) (hm : moments.Possible)
    (hx : IsEntryName x) (hl : ∀ target, entries.find? x ≠ some (.link target))
    (hrest : ∀ fs', Staged p base fs' r (Directory.insert x (.file content) entries) →
      ∀ s ∈ Step.trace moments refused fs' rest, p.AsBefore base s) :
    ∀ s ∈ Step.trace moments refused fs (⟨.writeFile (p.staging.entry x) content, [p.removal]⟩ :: rest),
      p.AsBefore base s := by
  have hmid : ∀ s, (Call.writeFile (p.staging.entry x) content).Midway fs s → p.AsBefore base s :=
    fun s hs => h.asBefore_midway_write hn hx hl hs
  rcases hc : (Call.writeFile (p.staging.entry x) content).attempt refused fs with ⟨fs', fault | ⟨⟩⟩
  · rw [Step.trace_cons_error hc]
    have hsame := Call.attempt_error (by simp) hc
    refine List.forall_mem_append.mpr ⟨Call.forall_mem_trace hm hmid ?_, ?_⟩
    · rw [hc, hsame]; exact h.asBefore hn
    · rw [hsame]; exact h.trace_removal hn hm
  · rw [Step.trace_cons_ok hc]
    have hwritten := h.write hn hx hl (Call.settle_ok.mp (Call.attempt_ok hc).2)
    refine List.forall_mem_append.mpr ⟨Call.forall_mem_trace hm hmid ?_, hrest fs' hwritten⟩
    rw [hc]; exact hwritten.asBefore hn

/-- **During the assembly** the root is made, and then the place is as before. -/
theorem trace_assembly (hn : p.WellNamed) (hm : moments.Possible) (refused : Refusals) (fs : FileSystem) :
    ∃ making before, Step.trace moments refused fs p.assembly = making ++ before ∧
      (∀ s ∈ making, Grows p.root.chain fs s ∧ Grows p.root.chain s (p.ready fs)) ∧
      ∀ s ∈ before, p.AsBefore (p.ready fs) s := by
  have hgrows : Grows p.root.chain fs (p.ready fs) := FileSystem.grows_makeDirectories fs p.root
  have hmaking : ∀ s ∈ (Call.makeDirectories p.root).trace moments refused fs,
      Grows p.root.chain fs s ∧ Grows p.root.chain s (p.ready fs) := by
    refine Call.forall_mem_trace hm (fun s hs => ?_) ?_
    · cases hs with
      | makeDirectories h h' => exact ⟨h, h'⟩
    · rcases Call.attempt_cases refused fs (.makeDirectories p.root) with hc | hc
      · rw [hc]; exact ⟨.refl, hgrows⟩
      · rw [hc]; exact ⟨hgrows, .refl⟩
  unfold assembly
  rcases h₁ : (Call.makeDirectories p.root).attempt refused fs with ⟨fs₁, fault | ⟨⟩⟩
  · exact ⟨_, [], by rw [Step.trace_cons_error h₁]; rfl, hmaking, by simp⟩
  refine ⟨_, _, Step.trace_cons_ok h₁, hmaking, ?_⟩
  obtain rfl : p.ready fs = fs₁ := congrArg Prod.fst (Call.attempt_ok h₁).2
  have hmid : ∀ s, (Call.makeDirectory p.staging).Midway (p.ready fs) s → p.AsBefore (p.ready fs) s :=
    fun s hs => nomatch hs
  rcases h₂ : (Call.makeDirectory p.staging).attempt refused (p.ready fs) with ⟨fs₂, fault | ⟨⟩⟩
  · rw [Step.trace_cons_error h₂]
    refine List.forall_mem_append.mpr ⟨Call.forall_mem_trace hm hmid ?_, by simp [Call.traceAll]⟩
    rw [h₂, Call.attempt_error (by simp) h₂]
    rfl
  · rw [Step.trace_cons_ok h₂]
    obtain ⟨r, hs⟩ := Staged.of_makeDirectory hn (Call.settle_ok.mp (Call.attempt_ok h₂).2)
    refine List.forall_mem_append.mpr ⟨Call.forall_mem_trace hm hmid ?_, ?_⟩
    · rw [h₂]; exact hs.asBefore hn
    · refine hs.trace_write hn hm isEntryName_partFileName (by simp) fun fs₃ hs₃ => ?_
      refine hs₃.trace_write hn hm hn.marker (unfinished_no_link p) fun fs₄ hs₄ => ?_
      simp [Step.trace]

/-! ## Between the renames -/

namespace SetAside

/-- As long as the place is empty and what was there lies aside, whatever else happens to the staging directory. -/
theorem movedAside (h : SetAside p base fs₀ r old entries) (hn : p.WellNamed) (hw : Within r p.entryNames base s)
    (hgone : s.node? (r ++ [p.name]) = none) (haside : s.node? (r ++ [asideName p.stagingName]) = some old) :
    p.MovedAside base s := by
  have hthins : Thins base (base.erase (r ++ [p.name])) s := by
    refine Within.thins h.within_without hw fun a ha => ?_
    simp only [entryNames, List.mem_cons, List.not_mem_nil, or_false] at ha
    rcases ha with rfl | rfl | rfl
    · exact Or.inl h.free_staging
    · exact Or.inl h.free_aside
    · exact Or.inr hgone
  refine ⟨fun l y hy => ?_, r, old, h.reaches_name.opens, ?_, hgone, haside⟩
  · obtain ⟨r', hr, ht⟩ := FileSystem.reaches_of_place hn.name hy
    have hwithout :=
      h.reaches_name.opens.of_place (FileSystem.working_erase _ _) hw.working (h.extends_without hw) hthins
      hn.name hy
    obtain rfl := (h.opens_of_without hw hwithout).unique hr.opens
    rw [FileSystem.targetAt_none hgone] at ht
    cases ht
  · rw [target, h.reaches_name.place hn.name, FileSystem.targetAt_some h.old_node]

theorem movedAside_self (h : SetAside p base fs r old entries) (hn : p.WellNamed) : p.MovedAside base fs :=
  h.movedAside hn h.within h.gone h.moved

/-- While the staging directory is removed, and afterwards. -/
theorem trace_removal (h : SetAside p base fs r old entries) (hn : p.WellNamed) (hm : moments.Possible) :
    ∀ s ∈ Call.traceAll moments refused fs [p.removal], p.MovedAside base s := by
  -- whatever becomes of the staging directory, the entries beside it stay
  have hbeside : ∀ s, Within r [p.stagingName] fs s → p.MovedAside base s := by
    intro s hw
    refine h.movedAside hn (h.within.trans (hw.mono (by simp [entryNames]))) ?_ ?_
    · rw [hw.entry (by simpa using hn.staging_ne.symm), h.gone]
    · rw [hw.entry (by simpa using hn.aside_ne_staging), h.moved]
  have hroot : ∀ {r'}, fs.Reaches p.root p.stagingName r' → r' = r := fun hr =>
    hr.opens.unique (h.opens_of_without h.within (h.opens_without hn.staging (hr.place hn.staging)))
  unfold Call.traceAll Call.traceAll
  rw [List.append_nil]
  refine Call.forall_mem_trace hm (fun s hs => ?_) ?_
  · obtain ⟨r', left, hr, -, rfl⟩ := midway_removeTree hn.staging hs
    obtain rfl := hroot hr
    exact hbeside _ (Within.update _ _ _ _)
  · rcases hc : p.removal.attempt refused fs with ⟨after, fault | ⟨⟩⟩
    · rw [Call.attempt_error (by simp [removal]) hc]
      exact h.movedAside_self hn
    · obtain ⟨r', hr, rfl⟩ := FileSystem.removeTree_ok hn.staging (Call.settle_ok.mp (Call.attempt_ok hc).2)
      obtain rfl := hroot hr
      exact hbeside _ (Within.erase hr.opens.directory _)

/-- When what lies aside is moved back, the staging directory is all there is beside what was there before. -/
theorem staged_of_restored (h : SetAside p base fs r old entries) (hn : p.WellNamed)
    (hr : fs.rename p.aside p.target = .ok fs') : Staged p base fs' r entries := by
  obtain ⟨r', y, hra, hrn, hy, -, rfl⟩ := FileSystem.rename_ok hn.aside hn.name hn.aside_ne hr
  have ho := h.opens_of_without h.within (h.opens_without hn.name (hrn.place hn.name))
  obtain rfl := ho.unique hra.opens
  rw [h.moved] at hy
  cases hy
  have hnode := FileSystem.node?_move_entry ho.directory (asideName p.stagingName) p.name old
  have hwithin : Within r p.entryNames base ((fs.erase (r ++ [asideName p.stagingName])).put r p.name old) :=
    h.within.trans ((Within.move ho.directory _ _ old).mono (by simp [entryNames]))
  constructor
  · exact h.reaches_staging
  · exact h.free_staging
  · refine Within.forget (a := asideName p.stagingName)
      (Within.forget (a := p.name) (hwithin.mono (by simp [entryNames])) ?_) ?_
    · rw [hnode, if_pos rfl, h.old_node]
    · rw [hnode, if_neg hn.aside_ne, if_pos rfl, h.free_aside]
  · rw [hnode, if_neg hn.staging_ne, if_neg hn.aside_ne_staging.symm, h.staged]

/-- Once the second rename is done, the place stays complete while what lies aside is removed. -/
theorem trace_cleanUp (h : SetAside p base fs r old p.complete) (hn : p.WellNamed) (hm : moments.Possible)
    (hr : fs.rename p.staging p.target = .ok fs') :
    ∀ s ∈ Call.traceAll moments refused fs' (p.cleanUp true), p.InPlace base s := by
  obtain ⟨hwithout, hp⟩ := h.published hn hr
  have ho := h.reaches_name.opens
  have hcleanUp : p.cleanUp true = [.removeTree p.aside] := rfl
  rw [hcleanUp]
  unfold Call.traceAll Call.traceAll
  rw [List.append_nil]
  refine Call.forall_mem_trace hm (fun s hs => ?_) ?_
  · obtain ⟨r', left, hra, -, rfl⟩ := midway_removeTree hn.aside hs
    obtain rfl := hp.reaches.opens.unique hra.opens
    have hw : Within r [asideName p.stagingName] fs' (fs'.update (fun _ => left) (r ++ [asideName p.stagingName])) :=
      Within.update _ _ _ _
    have hwithin := hp.within.trans (hw.mono (by simp [entryNames]))
    have hreach : (fs'.update (fun _ => left) (r ++ [asideName p.stagingName])).Reaches p.root p.name r :=
      ⟨hp.reaches.check, h.opens_of_without hwithin hwithout, hp.reaches.short⟩
    refine ⟨r, ho, ?_⟩
    rw [target, hreach.place hn.name, FileSystem.targetAt_some]
    rw [hw.entry (by simpa using hn.aside_ne.symm), hp.published]
  · rcases hc : (Call.removeTree p.aside).attempt refused fs' with ⟨after, fault | ⟨⟩⟩
    · rw [Call.attempt_error (by simp) hc]
      exact hp.inPlace hn ho
    · exact (h.published_removed hn hr (Call.settle_ok.mp (Call.attempt_ok hc).2)).inPlace hn ho

end SetAside

/-! ## The whole publication -/

/-- **The order of the phases**: first the place is as before, then it may be empty, and at last it is complete or again
as before. What succeeds ends with a complete place. -/
def Phases (p : Publication) (base : FileSystem) (succeeds : Prop) (states : List FileSystem) : Prop :=
  ∃ before between final, states = before ++ between ++ final ∧ (∀ s ∈ before, p.AsBefore base s) ∧
    (∀ s ∈ between, p.MovedAside base s) ∧
    ((∀ s ∈ final, p.AsBefore base s) ∨ ∀ s ∈ final, p.InPlace base s) ∧
    (succeeds → final ≠ [] ∧ ∀ s ∈ final, p.InPlace base s)

variable {succeeds : Prop} {states before between final : List FileSystem}

theorem Phases.of_before (h : ∀ s ∈ states, p.AsBefore base s) (hf : ¬ succeeds) : Phases p base succeeds states :=
  ⟨states, [], [], by simp, h, by simp, Or.inl (by simp), fun hs => absurd hs hf⟩

theorem Phases.of_inPlace (hb : ∀ s ∈ between, p.MovedAside base s) (hne : final ≠ [])
    (h : ∀ s ∈ final, p.InPlace base s) :
    Phases p base succeeds (between ++ final) :=
  ⟨[], between, final, by simp, by simp, hb, Or.inr h, fun _ => ⟨hne, h⟩⟩

theorem Phases.of_takenBack (hb : ∀ s ∈ between, p.MovedAside base s) (h : ∀ s ∈ final, p.AsBefore base s)
    (hf : ¬ succeeds) : Phases p base succeeds (between ++ final) :=
  ⟨[], between, final, by simp, by simp, hb, Or.inl h, fun hs => absurd hs hf⟩

theorem Phases.prepend (h : Phases p base succeeds states) (hb : ∀ s ∈ before, p.AsBefore base s) :
    Phases p base succeeds (before ++ states) := by
  obtain ⟨more, between, final, rfl, hmore, hbetween, hfinal, hsuccess⟩ := h
  exact ⟨before ++ more, between, final, by simp, List.forall_mem_append.mpr ⟨hb, hmore⟩, hbetween, hfinal, hsuccess⟩

/-- The calls that take a failed second rename back. -/
theorem SetAside.trace_undo (h : SetAside p base fs r old entries) (hn : p.WellNamed) (hm : moments.Possible) :
    ∃ between final, Call.traceAll moments refused fs [p.restoration, p.removal] = between ++ final ∧
      (∀ s ∈ between, p.MovedAside base s) ∧ ∀ s ∈ final, p.AsBefore base s := by
  have hback : Call.traceAll moments refused fs [p.restoration, p.removal] =
      [(p.restoration.attempt refused fs).1] ++
        Call.traceAll moments refused (p.restoration.attempt refused fs).1 [p.removal] := by
    rw [Call.traceAll, restoration, Call.trace_rename hm]
  rw [hback]
  rcases hc : p.restoration.attempt refused fs with ⟨fs', fault | ⟨⟩⟩
  · have hsame := Call.attempt_error (by simp [restoration]) hc
    subst hsame
    refine ⟨_, [], (List.append_nil _).symm, List.forall_mem_append.mpr ⟨?_, h.trace_removal hn hm⟩, by simp⟩
    simpa using h.movedAside_self hn
  · have hs := h.staged_of_restored hn (Call.settle_ok.mp (Call.attempt_ok hc).2)
    refine ⟨[], _, (List.nil_append _).symm, by simp, List.forall_mem_append.mpr ⟨?_, hs.trace_removal hn hm⟩⟩
    simpa using hs.asBefore hn

/-- **Where the place is free** one rename makes it complete. -/
theorem Staged.phases_free (h : Staged p base fs r p.complete) (hn : p.WellNamed) (hm : moments.Possible)
    (hocc : fs.exists? p.target = false) :
    Phases p base ((Step.runAll refused fs (p.swap false)).2 = .ok ()) (p.finish moments refused fs) := by
  have hswap : p.swap false = [⟨.rename p.staging p.target, [p.removal]⟩] := rfl
  unfold finish
  simp only [hocc, hswap]
  rcases hc : (Call.rename p.staging p.target).attempt refused fs with ⟨fs', fault | ⟨⟩⟩
  · rw [Step.runAll_cons_of_attempt_error hc]
    exact .of_before (by simpa using h.trace_rename_failed hn hm hc) (by simp)
  · have hp := h.published hn hocc (Call.settle_ok.mp (Call.attempt_ok hc).2)
    rw [Step.runAll_cons_of_attempt hc, Step.trace_cons_ok hc, Call.trace_rename hm, hc]
    have hphases : Phases p base ((Step.runAll refused fs' []).2 = .ok ()) ([] ++ [fs']) :=
      .of_inPlace (by simp) (by simp) (by simpa using hp.inPlace hn h.opens_base)
    exact hphases

/-- **Where something is in the way**, the place is empty between two renames. -/
theorem Staged.phases_occupied (h : Staged p base fs r p.complete) (hn : p.WellNamed) (ha : Absent base p.aside)
    (hm : moments.Possible) (hocc : fs.exists? p.target = true) :
    Phases p base ((Step.runAll refused fs (p.swap true)).2 = .ok ()) (p.finish moments refused fs) := by
  have hswap : p.swap true = [⟨.rename p.target p.aside, [p.removal]⟩,
    ⟨.rename p.staging p.target, [p.restoration, p.removal]⟩] := rfl
  unfold finish
  simp only [hocc, hswap]
  rcases h₁ : (Call.rename p.target p.aside).attempt refused fs with ⟨fs₁, fault | ⟨⟩⟩
  · rw [Step.runAll_cons_of_attempt_error h₁]
    exact .of_before (by simpa using h.trace_rename_failed hn hm h₁) (by simp)
  obtain ⟨old, hset⟩ := h.setAside hn ha (Call.settle_ok.mp (Call.attempt_ok h₁).2)
  have hgone : ∀ s ∈ [fs₁], p.MovedAside base s := by simpa using hset.movedAside_self hn
  rw [Step.runAll_cons_of_attempt h₁, Step.trace_cons_ok h₁, Call.trace_rename hm, h₁]
  rcases h₂ : (Call.rename p.staging p.target).attempt refused fs₁ with ⟨fs₂, fault | ⟨⟩⟩
  · obtain ⟨between, final, hundo, hbetween, hfinal⟩ := hset.trace_undo hn hm
    rw [Step.runAll_cons_of_attempt_error h₂, Step.trace_cons_error h₂, Call.trace_rename hm, h₂,
      Call.attempt_error (by simp) h₂, hundo]
    have hsplit : [fs₁] ++ ([fs₁] ++ (between ++ final)) ++ [] = ([fs₁] ++ [fs₁] ++ between) ++ final := by simp
    rw [hsplit]
    refine .of_takenBack (List.forall_mem_append.mpr ⟨?_, hbetween⟩) hfinal (by simp)
    exact List.forall_mem_append.mpr ⟨hgone, hgone⟩
  · have hrename := Call.settle_ok.mp (Call.attempt_ok h₂).2
    have hp := (hset.published hn hrename).2
    rw [Step.runAll_cons_of_attempt h₂, Step.trace_cons_ok h₂, Call.trace_rename hm, h₂, List.append_assoc]
    refine .of_inPlace hgone (by simp) ?_
    simp only [Step.trace, Step.runAll, List.append_nil]
    exact List.forall_mem_append.mpr ⟨by simpa using hp.inPlace hn h.opens_base, hset.trace_cleanUp hn hm hrename⟩

/-- **The phases of a publication**: the root is made, and then the phases of its place follow each other. -/
theorem phases_trace (hn : p.WellNamed) (ha : Absent (p.ready fs) p.aside) (hm : moments.Possible) :
    ∃ making states, p.trace moments refused fs = making ++ states ∧
      (∀ s ∈ making, Grows p.root.chain fs s ∧ Grows p.root.chain s (p.ready fs)) ∧
      Phases p (p.ready fs) ((p.run refused fs).2 = .ok ()) states := by
  obtain ⟨making, before, hassembly, hmaking, hbefore⟩ := trace_assembly hn hm refused fs
  unfold trace run
  rw [hassembly]
  refine ⟨making, _, List.append_assoc _ _ _, hmaking, ?_⟩
  rcases hrun : Step.runAll refused fs p.assembly with ⟨assembled, fault | ⟨⟩⟩
  · exact .of_before (by simpa using hbefore) (by simp)
  obtain ⟨r, hs⟩ := assembly_ok hn hrun
  refine Phases.prepend ?_ hbefore
  have hphases :
      Phases p (p.ready fs) ((Step.runAll refused assembled (p.swap (assembled.exists? p.target))).2 = .ok ())
        (p.finish moments refused assembled) := by
    cases hocc : assembled.exists? p.target with
    | false => exact hs.phases_free hn hm hocc
    | true => exact hs.phases_occupied hn ha hm hocc
  rcases hswap : Step.runAll refused assembled (p.swap (assembled.exists? p.target)) with ⟨swapped, fault | ⟨⟩⟩
  · simpa only [hswap] using hphases
  · simpa only [hswap] using hphases

end Publication

end GraphDisk
