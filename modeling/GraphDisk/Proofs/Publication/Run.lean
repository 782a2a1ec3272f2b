import GraphDisk.ShardDirectory.Publication

/-!
# Runs of publications

What it means that steps have succeeded or failed, one step at a time (`Step.runAll_cons_ok`, `Step.runAll_cons_error`),
and which calls fail on the way: `Publication.failures` lists the calls of a run that were refused or failed by
themselves, among them the calls that take something back.
-/

namespace GraphDisk

variable {refused : Refusals} {fs fs' after : FileSystem} {fault : IoFault}

namespace Call

/-! ## One call -/

@[simp] theorem settle_ok {outcome : Except IoFault FileSystem} :
    settle fs outcome = (after, .ok ()) ↔ outcome = .ok after := by
  cases outcome <;> simp [settle]

theorem attempt_ok {c : Call} (h : c.attempt refused fs = (after, .ok ())) :
    refused c = none ∧ c.perform fs = (after, .ok ()) := by
  unfold attempt at h
  cases hr : refused c with
  | some e => rw [hr] at h; cases h
  | none => rw [hr] at h; exact ⟨rfl, h⟩

/-- A call is refused and changes nothing, or it is carried out. -/
theorem attempt_cases (refused : Refusals) (fs : FileSystem) (c : Call) :
    (c.attempt refused fs).1 = fs ∨ (c.attempt refused fs).1 = (c.perform fs).1 := by
  unfold attempt
  cases refused c with
  | some _ => exact Or.inl rfl
  | none => exact Or.inr rfl

/-- A call that does all or nothing has done nothing when it fails. -/
theorem attempt_error {c : Call} (hc : ∀ p, c ≠ .makeDirectories p) (h : c.attempt refused fs = (after, .error fault)) :
    after = fs := by
  have hsettle : ∀ outcome, settle fs outcome = (after, .error fault) → after = fs := fun outcome ho => by
    cases outcome with
    | ok _ => cases ho
    | error _ => cases ho; rfl
  unfold attempt at h
  split at h
  · cases h; rfl
  · cases c with
    | makeDirectories p => exact absurd rfl (hc p)
    | makeDirectory p => exact hsettle _ h
    | writeFile p content => exact hsettle _ h
    | rename source destination => exact hsettle _ h
    | removeTree p => exact hsettle _ h

/-- The calls that fail among some that are carried out one after the other. -/
def failures (refused : Refusals) (fs : FileSystem) : List Call → List Call
  | [] => []
  | c :: rest =>
    match c.attempt refused fs with
    | (after, .ok ()) => failures refused after rest
    | (after, .error _) => c :: failures refused after rest

theorem failures_cons_of_ok {c : Call} {rest : List Call} (hr : refused c = none)
    (hp : c.perform fs = (after, .ok ())) :
    failures refused fs (c :: rest) = failures refused after rest := by
  have hc : c.attempt refused fs = (after, .ok ()) := by rw [attempt, hr, hp]
  rw [failures, hc]

/-- A call that does not fail is carried out. -/
theorem attemptAll_cons {c : Call} {rest : List Call} (h : c ∉ failures refused fs (c :: rest)) :
    ∃ after, c.perform fs = (after, .ok ()) ∧ failures refused fs (c :: rest) = failures refused after rest ∧
      attemptAll refused fs (c :: rest) = attemptAll refused after rest := by
  rcases hc : c.attempt refused fs with ⟨after, e | ⟨⟩⟩
  · rw [failures, hc] at h; exact absurd List.mem_cons_self h
  · refine ⟨after, (attempt_ok hc).2, by rw [failures, hc], ?_⟩
    simp only [attemptAll, List.foldl_cons, hc]

end Call

namespace Step

/-! ## Some steps -/

variable {s : Step} {rest : List Step}

/-- The calls that fail when steps are carried out until one fails. -/
def failures (refused : Refusals) (fs : FileSystem) : List Step → List Call
  | [] => []
  | s :: rest =>
    match s.call.attempt refused fs with
    | (after, .ok ()) => failures refused after rest
    | (after, .error _) => s.call :: Call.failures refused after s.undo

theorem runAll_cons_of_ok {c : Call} {undo : List Call} (hr : refused c = none) (h : c.perform fs = (fs', .ok ())) :
    runAll refused fs (⟨c, undo⟩ :: rest) = runAll refused fs' rest := by
  have hc : c.attempt refused fs = (fs', .ok ()) := by rw [Call.attempt, hr, h]
  rw [runAll, hc]

theorem runAll_cons_ok (h : runAll refused fs (s :: rest) = (after, .ok ())) :
    ∃ fs', s.call.attempt refused fs = (fs', .ok ()) ∧ runAll refused fs' rest = (after, .ok ()) := by
  unfold runAll at h
  rcases hs : s.call.attempt refused fs with ⟨fs', e | ⟨⟩⟩
  · rw [hs] at h; cases h
  · rw [hs] at h; exact ⟨fs', rfl, h⟩

/-- Either the first step has failed and was taken back, or one after it has failed. -/
theorem runAll_cons_error (h : runAll refused fs (s :: rest) = (after, .error fault)) :
    (∃ fs', s.call.attempt refused fs = (fs', .error fault) ∧ after = Call.attemptAll refused fs' s.undo ∧
      failures refused fs (s :: rest) = s.call :: Call.failures refused fs' s.undo) ∨
    ∃ fs', s.call.attempt refused fs = (fs', .ok ()) ∧ runAll refused fs' rest = (after, .error fault) ∧
      failures refused fs (s :: rest) = failures refused fs' rest := by
  unfold runAll at h
  rcases hs : s.call.attempt refused fs with ⟨fs', e | ⟨⟩⟩
  · rw [hs] at h
    cases h
    exact Or.inl ⟨fs', rfl, rfl, by rw [failures, hs]⟩
  · rw [hs] at h
    exact Or.inr ⟨fs', rfl, h, by rw [failures, hs]⟩

end Step

namespace Publication

/-! ## A publication -/

variable {p : Publication}

/-- **The calls of a publication that fail**, with those that take something back. -/
def failures (refused : Refusals) (fs : FileSystem) (p : Publication) : List Call :=
  match Step.runAll refused fs p.assembly with
  | (assembled, .ok ()) =>
    let occupied := assembled.exists? p.target
    match Step.runAll refused assembled (p.swap occupied) with
    | (swapped, .ok ()) => Call.failures refused swapped (p.cleanUp occupied)
    | (_, .error _) => Step.failures refused assembled (p.swap occupied)
  | (_, .error _) => Step.failures refused fs p.assembly

theorem run_ok (h : p.run refused fs = (after, .ok ())) :
    ∃ assembled swapped, Step.runAll refused fs p.assembly = (assembled, .ok ()) ∧
      Step.runAll refused assembled (p.swap (assembled.exists? p.target)) = (swapped, .ok ()) ∧
      after = Call.attemptAll refused swapped (p.cleanUp (assembled.exists? p.target)) := by
  unfold run at h
  rcases ha : Step.runAll refused fs p.assembly with ⟨assembled, e | ⟨⟩⟩
  · rw [ha] at h; cases h
  · rw [ha] at h
    simp only at h
    rcases hs : Step.runAll refused assembled (p.swap (assembled.exists? p.target)) with ⟨swapped, e | ⟨⟩⟩
    · rw [hs] at h; cases h
    · rw [hs] at h
      cases h
      exact ⟨assembled, swapped, rfl, hs, rfl⟩

theorem run_error (h : p.run refused fs = (after, .error fault)) :
    (Step.runAll refused fs p.assembly = (after, .error fault) ∧
      p.failures refused fs = Step.failures refused fs p.assembly) ∨
    ∃ assembled, Step.runAll refused fs p.assembly = (assembled, .ok ()) ∧
      Step.runAll refused assembled (p.swap (assembled.exists? p.target)) = (after, .error fault) ∧
      p.failures refused fs = Step.failures refused assembled (p.swap (assembled.exists? p.target)) := by
  unfold run at h
  unfold failures
  rcases ha : Step.runAll refused fs p.assembly with ⟨assembled, e | ⟨⟩⟩
  · rw [ha] at h
    cases h
    exact Or.inl ⟨rfl, rfl⟩
  · rw [ha] at h
    simp only at h
    rcases hs : Step.runAll refused assembled (p.swap (assembled.exists? p.target)) with ⟨swapped, e | ⟨⟩⟩
    · rw [hs] at h
      cases h
      refine Or.inr ⟨assembled, rfl, hs, ?_⟩
      simp only [hs]
    · rw [hs] at h; cases h

end Publication

end GraphDisk
