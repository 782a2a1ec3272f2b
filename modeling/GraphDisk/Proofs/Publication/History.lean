import GraphDisk.Proofs.FileSystem.Growth
import GraphDisk.Proofs.Publication.Assembly

/-!
# The file systems a publication passes through

Between two calls, and also while a call is carried out, the program may be stopped or somebody may look at the files. A
rename and the making of one directory happen at once; a chain of directories is made one by one, a file has only the
first bytes of its content for a while, and a tree is removed bit by bit (`Call.Midway`). `Publication.trace` lists what
is passed from the first call to the last, with any such moments in between, and ends with what the run leaves
(`Publication.getLastD_trace`).
-/

namespace GraphDisk

open FileSystem (Grows Within)

variable {refused : Refusals} {fs fs' s after base : FileSystem} {fault : IoFault} {r : Location} {entries : Directory}

/-! ## Moments -/

/-- **What a call passes through** before it is done. -/
inductive Call.Midway (fs : FileSystem) : Call → FileSystem → Prop
  /-- Some of the directories have been made. -/
  | makeDirectories {p : Path} {s : FileSystem} : Grows p.chain fs s → Grows p.chain s (fs.makeDirectories p).1 →
      Midway fs (.makeDirectories p) s
  /-- The file has the first bytes of its content. -/
  | writeFile {p : Path} {content : Content} {s : FileSystem} (size : Nat) :
    fs.writeFile p (content.keep size) = .ok s →
      Midway fs (.writeFile p content) s
  /-- Of what the directory held, something is left. -/
  | removeTree {p : Path} {l : Location} {entries : Directory} (left : Directory) :
      fs.lookup false p = .ok (.found l (.directory entries)) → Midway fs (.removeTree p) (fs.update (fun _ => left) l)

/-- The moments at which calls are looked at. -/
abbrev Moments := FileSystem → Call → List FileSystem

/-- Calls are looked at only when they are done. -/
def Moments.none : Moments := fun _ _ => []

/-- Every call passes through its moments. -/
def Moments.Possible (moments : Moments) : Prop := ∀ fs c, ∀ s ∈ moments fs c, c.Midway fs s

variable {moments : Moments}

/-! ## Traces -/

namespace Call

/-- What is passed in an attempt to carry out a call, up to what it leaves. -/
def trace (moments : Moments) (refused : Refusals) (fs : FileSystem) (c : Call) : List FileSystem :=
  (if refused c = none then moments fs c else []) ++ [(c.attempt refused fs).1]

/-- What is passed when calls are carried out one after the other, whether they fail or not. -/
def traceAll (moments : Moments) (refused : Refusals) (fs : FileSystem) : List Call → List FileSystem
  | [] => []
  | c :: rest => c.trace moments refused fs ++ traceAll moments refused (c.attempt refused fs).1 rest

/-- What holds of the moments of a call and of what it leaves holds of all that is passed. -/
theorem forall_mem_trace {P : FileSystem → Prop} {c : Call} (hm : moments.Possible)
    (hmid : ∀ s, c.Midway fs s → P s) (hdone : P (c.attempt refused fs).1) : ∀ s ∈ c.trace moments refused fs, P s := by
  intro s hs
  rcases List.mem_append.mp hs with hs | hs
  · split at hs
    · exact hmid s (hm fs c s hs)
    · cases hs
  · rw [List.mem_singleton.mp hs]
    exact hdone

/-- A rename happens at once. -/
theorem trace_rename (hm : moments.Possible) (source destination : Path) :
    trace moments refused fs (.rename source destination) = [(attempt refused fs (.rename source destination)).1] := by
  have hnone : moments fs (.rename source destination) = [] := by
    refine List.eq_nil_iff_forall_not_mem.mpr fun s hs => ?_
    cases hm _ _ s hs
  simp [trace, hnone]

end Call

namespace Step

/-- What is passed when steps are carried out until one fails, which is then taken back. -/
def trace (moments : Moments) (refused : Refusals) (fs : FileSystem) : List Step → List FileSystem
  | [] => []
  | s :: rest => s.call.trace moments refused fs ++
    match s.call.attempt refused fs with
    | (after, .ok ()) => trace moments refused after rest
    | (after, .error _) => Call.traceAll moments refused after s.undo

variable {c : Call} {undo : List Call} {rest : List Step}

section Succeeds

variable (h : c.attempt refused fs = (fs', .ok ()))
include h

theorem trace_cons_ok : trace moments refused fs (⟨c, undo⟩ :: rest) =
    c.trace moments refused fs ++ trace moments refused fs' rest := by
  rw [trace, h]

theorem runAll_cons_of_attempt : runAll refused fs (⟨c, undo⟩ :: rest) = runAll refused fs' rest := by
  rw [runAll, h]

end Succeeds

section Fails

variable (h : c.attempt refused fs = (fs', .error fault))
include h

theorem trace_cons_error : trace moments refused fs (⟨c, undo⟩ :: rest) =
    c.trace moments refused fs ++ Call.traceAll moments refused fs' undo := by
  rw [trace, h]

theorem runAll_cons_of_attempt_error :
    runAll refused fs (⟨c, undo⟩ :: rest) = (Call.attemptAll refused fs' undo, .error fault) := by
  rw [runAll, h]

end Fails

end Step

namespace Publication

variable {p : Publication}

/-- What is passed after the assembly. -/
def finish (moments : Moments) (refused : Refusals) (assembled : FileSystem) (p : Publication) : List FileSystem :=
  let occupied := assembled.exists? p.target
  Step.trace moments refused assembled (p.swap occupied) ++
    match Step.runAll refused assembled (p.swap occupied) with
    | (swapped, .ok ()) => Call.traceAll moments refused swapped (p.cleanUp occupied)
    | (_, .error _) => []

/-- **What a publication passes through**, from what the first call makes to what the run leaves. -/
def trace (moments : Moments) (refused : Refusals) (fs : FileSystem) (p : Publication) : List FileSystem :=
  Step.trace moments refused fs p.assembly ++
    match Step.runAll refused fs p.assembly with
    | (assembled, .ok ()) => p.finish moments refused assembled
    | (_, .error _) => []

end Publication

/-! ## What comes last -/

theorem getLastD_append {α : Type} {xs ys : List α} {a b c : α} (hx : xs.getLastD a = b) (hy : ys.getLastD b = c) :
    (xs ++ ys).getLastD a = c := by
  rw [← hy, ← hx]
  simp only [List.getLastD_eq_getLast?, List.getLast?_append]
  cases ys.getLast? <;> rfl

theorem Call.getLastD_trace (c : Call) (fs : FileSystem) :
    (c.trace moments refused fs).getLastD fs = (c.attempt refused fs).1 := by
  simp [Call.trace]

theorem Call.getLastD_traceAll : ∀ (calls : List Call) (fs : FileSystem),
    (traceAll moments refused fs calls).getLastD fs = attemptAll refused fs calls
  | [], _ => rfl
  | c :: rest, fs => getLastD_append (c.getLastD_trace fs) (getLastD_traceAll rest _)

theorem Step.getLastD_trace : ∀ (steps : List Step) (fs : FileSystem),
    (trace moments refused fs steps).getLastD fs = (runAll refused fs steps).1
  | [], _ => rfl
  | ⟨c, undo⟩ :: rest, fs => by
    rcases h : c.attempt refused fs with ⟨fs', fault | ⟨⟩⟩
    · rw [trace_cons_error h, runAll_cons_of_attempt_error h]
      exact getLastD_append ((c.getLastD_trace fs).trans (congrArg Prod.fst h)) (Call.getLastD_traceAll _ _)
    · rw [trace_cons_ok h, runAll_cons_of_attempt h]
      exact getLastD_append ((c.getLastD_trace fs).trans (congrArg Prod.fst h)) (getLastD_trace rest fs')

/-- **The trace ends with what the run leaves.** -/
theorem Publication.getLastD_trace (p : Publication) (fs : FileSystem) :
    (p.trace moments refused fs).getLastD fs = (p.run refused fs).1 := by
  unfold Publication.trace Publication.run
  refine getLastD_append (Step.getLastD_trace _ _) ?_
  rcases ha : Step.runAll refused fs p.assembly with ⟨assembled, fault | ⟨⟩⟩
  · rfl
  · simp only
    refine getLastD_append (Step.getLastD_trace _ _) ?_
    rcases hs : Step.runAll refused assembled (p.swap (assembled.exists? p.target)) with ⟨swapped, fault | ⟨⟩⟩
    · rfl
    · exact Call.getLastD_traceAll _ _

/-- The root is made first. -/
theorem Publication.ready_mem_trace (p : Publication) (fs : FileSystem) : p.ready fs ∈ p.trace moments .none fs := by
  have hfirst : p.ready fs ∈ (Call.makeDirectories p.root).trace moments .none fs :=
    List.mem_append_right _ List.mem_cons_self
  unfold trace assembly Step.trace
  exact List.mem_append_left _ (List.mem_append_left _ hfirst)

/-! ## Removing a directory bit by bit -/

/-- What is passed while the directory at an entry is removed. -/
theorem midway_removeTree {q : Path} {a : String} (ha : IsEntryName a)
    (h : (Call.removeTree (q.entry a)).Midway fs s) : ∃ r left, fs.Reaches q a r ∧
      fs.shape? (r ++ [a]) = some .directory ∧ s = fs.update (fun _ => left) (r ++ [a]) := by
  cases h with
  | @removeTree _ l entries left hfound =>
    rw [FileSystem.lookup_false_entry ha] at hfound
    obtain ⟨r, hr, ht⟩ := FileSystem.reaches_of_place ha hfound
    cases hx : fs.node? (r ++ [a]) with
    | none => rw [FileSystem.targetAt_none hx] at ht; cases ht
    | some x =>
      rw [FileSystem.targetAt_some hx] at ht
      cases ht
      exact ⟨r, left, hr, FileSystem.shape?_of_node? hx, rfl⟩

namespace FileSystem

variable {a : String}

theorem Within.update (r : Location) (a : String) (fs : FileSystem) (change : Directory → Directory) :
    Within r [a] fs (fs.update change (r ++ [a])) := by
  refine ⟨rfl, fun l hl => ?_, fun l hl hr => ?_⟩
  · exact shape?_update_of_not_prefix change (hl a List.mem_cons_self)
  · refine node?_update_of_not_prefix change (hl a List.mem_cons_self) fun hp => ?_
    rcases List.prefix_concat_iff.mp hp with rfl | hp
    · exact hl a List.mem_cons_self (List.prefix_refl _)
    · exact hr hp

theorem node?_update_self (change : Directory → Directory) {l : Location} (h : fs.shape? l = some .directory) :
    (fs.update change l).node? l = some (.directory (change (fs.entriesAt l))) := by
  have := node?_update_append change h []
  rwa [List.append_nil, Node.at?_nil] at this

end FileSystem

end GraphDisk
