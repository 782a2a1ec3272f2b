import GraphDisk.Proofs.Shard.RoundTrip
import GraphDisk.Workers

/-!
# What threads give does not depend on them

Tasks that all succeed give their results in the order of the tasks, whichever is done first (`Schedule.run_eq_ok`):
after any number of tasks the slots hold the results of just these tasks (`Schedule.place_filled`). If tasks fail, the
whole fails with the reason of one of them (`Schedule.mem_of_run_error`). So, if threads can be started, a file is
written as if by one thread (`Table.ofRowsBy_eq`), and it can be read iff one thread can read it, with the same rows
(`Shard.readRowsBy_eq_ok`).
-/

namespace GraphDisk

namespace Schedule

variable {ε α : Type} {order : Schedule} {tasks : List (Except ε α)}
  {slots : List (Option α)} {results : List α} {e : ε}

/-! ## Tasks that succeed -/

/-- The slots when some tasks are done. -/
def filled (results : List α) (finished : List Nat) : List (Option α) :=
  results.mapIdx fun i a => if i ∈ finished then some a else none

/-- **One more task is done.** -/
theorem place_filled {i : Nat} (finished : List Nat) (hi : i < results.length) :
    place (results.map .ok : List (Except ε α)) (filled results finished) i = .ok (filled results (i :: finished)) := by
  have hslots : (filled results finished).set i (some results[i]) = filled results (i :: finished) := by
    apply List.ext_getElem
    · simp [filled]
    · intro j h₁ h₂
      rw [List.getElem_set]
      by_cases hij : i = j
      · subst hij
        simp [filled]
      · simp [filled, hij, Ne.symm hij]
  simp only [place, List.getElem?_map, List.getElem?_eq_getElem hi, Option.map_some, hslots]

/-- All tasks of a list are done. -/
theorem foldlM_place : ∀ {steps : List Nat} (finished : List Nat), (∀ i ∈ steps, i < results.length) →
    steps.foldlM (place (results.map .ok : List (Except ε α))) (filled results finished) =
      .ok (filled results (steps.reverse ++ finished))
  | [], _, _ => rfl
  | i :: steps, finished, h => by
    obtain ⟨hi, hsteps⟩ := List.forall_mem_cons.mp h
    rw [List.foldlM_cons, place_filled finished hi, List.reverse_cons, List.append_assoc, List.singleton_append]
    exact foldlM_place (i :: finished) hsteps

theorem collect_ok (hf : order.Fair) : order.collect (results.map .ok : List (Except ε α)) = .ok results := by
  have hmem : ∀ i, i ∈ order results.length ↔ i < results.length := fun i => by rw [(hf _).mem_iff, List.mem_range]
  have hstart : List.replicate results.length none = filled results [] := by
    apply List.ext_getElem <;> simp [filled]
  have hend : filled results (order results.length).reverse = results.map some := by
    apply List.ext_getElem
    · simp [filled]
    · intro i h₁ h₂
      have hi : i < results.length := by simpa using h₂
      simp [filled, hmem, hi]
  unfold collect
  rw [List.length_map, hstart, foldlM_place [] fun i hi => (hmem i).mp hi, List.append_nil, hend]
  exact congrArg Except.ok (List.filterMap_map.trans List.filterMap_some)

/-! ## Tasks that fail -/

/-- The failure of the whole is that of a task. -/
theorem foldlM_place_error : ∀ {steps : List Nat} {slots : List (Option α)},
    steps.foldlM (place tasks) slots = .error e → .error e ∈ tasks
  | [], _, h => by cases h
  | i :: steps, slots, h => by
    rw [List.foldlM_cons] at h
    rcases bind_eq_error.mp h with h | ⟨next, -, h⟩
    · unfold place at h
      split at h
      · cases h
      · rename_i hi
        cases h
        exact List.mem_of_getElem? hi
      · cases h
    · exact foldlM_place_error h

/-- A task that fails makes the whole fail. -/
theorem foldlM_place_fails {i : Nat} (hi : tasks[i]? = some (.error e)) :
    ∀ {steps : List Nat} {slots : List (Option α)},
    i ∈ steps → ∃ e', steps.foldlM (place tasks) slots = .error e'
  | j :: steps, slots, h => by
    rw [List.foldlM_cons]
    cases hj : place tasks slots j with
    | error e' => exact ⟨e', rfl⟩
    | ok next =>
      rcases List.mem_cons.mp h with rfl | h
      · simp only [place, hi] at hj
        cases hj
      · exact foldlM_place_fails hi h

theorem collect_error (h : order.collect tasks = .error e) : .error e ∈ tasks :=
  foldlM_place_error (map_eq_error h)

theorem mapM_id_eq_ok : tasks.mapM id = .ok results ↔ tasks = results.map .ok := by
  rw [mapM_eq_ok, ← List.forall₂_eq_eq_eq, List.forall₂_map_right_iff]
  rfl

theorem collect_eq_ok (hf : order.Fair) : order.collect tasks = .ok results ↔ tasks.mapM id = .ok results := by
  rw [mapM_id_eq_ok]
  constructor
  · intro h
    by_cases hall : ∀ task ∈ tasks, ∃ a, task = .ok a
    · obtain ⟨rs, hrs⟩ : ∃ rs, tasks.mapM id = .ok rs := by
        rcases ok_or_error (tasks.mapM id) with hok | hfail
        · exact hok
        · obtain ⟨task, hmem, e, he⟩ := mapM_fails.mp hfail
          obtain ⟨a, rfl⟩ := hall task hmem
          cases he
      obtain rfl := mapM_id_eq_ok.mp hrs
      rw [collect_ok hf] at h
      cases h
      rfl
    · push Not at hall
      obtain ⟨task, hmem, hno⟩ := hall
      obtain ⟨i, hi⟩ := List.mem_iff_getElem?.mp hmem
      have hdone : i ∈ order tasks.length :=
        (hf _).mem_iff.mpr (List.mem_range.mpr (List.getElem?_eq_some_iff.mp hi).1)
      cases task with
      | ok a => exact absurd rfl (hno a)
      | error e =>
        obtain ⟨e', he'⟩ : ∃ e', (order tasks.length).foldlM (place tasks) (List.replicate tasks.length none) =
            .error e' :=
          foldlM_place_fails hi hdone
        rw [collect, he'] at h
        cases h
  · rintro rfl
    exact collect_ok hf

/-- **The results are those of the tasks, in the order of the tasks**, however the tasks are done. -/
theorem run_eq_ok (hf : order.Fair) {spread : Bool} :
    order.run spread tasks = .ok results ↔ tasks.mapM id = .ok results := by
  cases spread
  · exact Iff.rfl
  · exact collect_eq_ok hf

/-- **If the whole fails, one of the tasks has failed**. -/
theorem mem_of_run_error {spread : Bool} (h : order.run spread tasks = .error e) : .error e ∈ tasks := by
  cases spread
  · obtain ⟨before, task, behind, rfl, -, ht⟩ := mapM_eq_error.mp h
    rw [← ht]
    simp
  · exact collect_error h

end Schedule

/-! ## Files -/

variable {codec : CodecConfig} {order : Schedule} {s : Schema} {needed : Bool} {noThreads : Option IoFault} {room : Nat}

theorem startThreads_eq_ok {u : Unit} : startThreads needed noThreads = .ok u ↔ (needed = true → noThreads = none) := by
  cases needed <;> cases noThreads <;> simp [startThreads]

theorem startThreads_eq_error {e : Error} :
    startThreads needed noThreads = .error e ↔ needed = true ∧ ∃ fault, noThreads = some fault ∧ .io fault = e := by
  cases needed <;> cases noThreads <;> simp [startThreads]

/-- **A file is written as if by one thread**, if threads can be started where they are needed. -/
theorem Table.ofRowsBy_eq (hf : order.Fair) (codec : CodecConfig) (s : Schema) (rows : List s.Row)
    (ht : codec.spreads rows.length = true → noThreads = none) :
    ofRowsBy codec order s rows noThreads = .ok (holding s rows) := by
  have hrows := ofRows_eq s rows
  unfold ofRows at hrows
  obtain ⟨columns, hcolumns, h⟩ := bind_eq_ok.mp hrows
  unfold ofRowsBy
  refine bind_eq_ok.mpr ⟨(), startThreads_eq_ok.mpr ht, ?_⟩
  refine bind_eq_ok.mpr ⟨columns, (Schedule.run_eq_ok hf).mpr ?_, h⟩
  rw [List.mapM_map]
  exact hcolumns

namespace Shard

variable {shard : Shard} {rows : List s.Row} {e : Error}

/-- **A file can be read iff one thread can read it**, and threads can be started where they are needed; then the rows
are the same. -/
theorem readRowsBy_eq_ok (hf : order.Fair) (hs : shard.schema = s) :
    shard.readRowsBy codec order s noThreads room = .ok rows ↔
      (shard.spreads codec = true → noThreads = none) ∧ shard.readRows s room = .ok rows := by
  unfold readRowsBy readRows
  rw [if_pos hs, if_pos hs, bind_eq_ok]
  simp only [startThreads_eq_ok, exists_const]
  refine and_congr_right fun _ => ?_
  rw [bind_eq_ok, bind_eq_ok]
  refine exists_congr fun groups => and_congr_left fun _ => ?_
  rw [Schedule.run_eq_ok hf, List.mapM_map]
  rfl

/-- Where threads can be started, they read what one thread reads. -/
theorem readRowsBy_eq_ok_of_started (hf : order.Fair) (ht : shard.spreads codec = true → noThreads = none) :
    shard.readRowsBy codec order s noThreads room = .ok rows ↔ shard.readRows s room = .ok rows := by
  by_cases hs : shard.schema = s
  · rw [readRowsBy_eq_ok hf hs]
    exact and_iff_right ht
  · unfold readRowsBy readRows
    rw [if_neg hs, if_neg hs]

/-- A file whose row groups are read one after the other is read by one thread. -/
theorem readRowsBy_eq_readRows (h : shard.spreads codec = false) :
    shard.readRowsBy codec order s noThreads room = shard.readRows s room := by
  unfold readRowsBy readRows
  have hstart : startThreads false noThreads = .ok () := startThreads_eq_ok.mpr nofun
  rw [h, hstart]
  simp only [Schedule.run, Bool.false_eq_true, if_false, List.mapM_map]
  rfl

/-- **Rows that were written are read again**, whether there are threads or not. -/
theorem readRowsBy_holding (codec : CodecConfig) (order : Schedule) (s : Schema) (rows : List s.Row)
    (noThreads : Option IoFault) (room : Nat) :
    (holding s rows).readRowsBy codec order s noThreads room = .ok rows := by
  rw [readRowsBy_eq_readRows rfl, readRows_holding]

/-- **Why a file of the right schema cannot be read**: threads cannot be started, or a row group cannot be read, or
there is no room for all rows. -/
theorem readRowsBy_error (hs : shard.schema = s)
    (h : shard.readRowsBy codec order s noThreads room = .error e) :
    (shard.spreads codec = true ∧ ∃ fault, noThreads = some fault ∧ .io fault = e) ∨
    (∃ g ∈ shard.table.groups, ∃ number, shard.readGroup s number g room = .error e) ∨
    ∃ groups, order.run (shard.spreads codec)
        (shard.table.groups.zipIdx.map fun x => shard.readGroup s x.2 x.1 room) = .ok groups ∧
      ¬ s.Reservable room groups.flatten.length shard.table.rowCount ∧ .table .halt = e := by
  unfold readRowsBy at h
  rw [if_pos hs] at h
  rcases bind_eq_error.mp h with h | ⟨-, -, h⟩
  · exact Or.inl (startThreads_eq_error.mp h)
  rcases bind_eq_error.mp h with h | ⟨groups, hgroups, h⟩
  · obtain ⟨x, hx, he⟩ := List.mem_map.mp (Schedule.mem_of_run_error h)
    exact Or.inr (Or.inl ⟨x.1, List.fst_mem_of_mem_zipIdx hx, x.2, he⟩)
  rcases bind_eq_error.mp h with h | ⟨-, -, h⟩
  · exact Or.inr (Or.inr ⟨groups, hgroups, Schema.reserve_eq_error.mp h⟩)
  · cases h

end Shard

/-! ## Machines -/

namespace Machine

variable {m : Machine} {fs : FileSystem}

theorem Faithful.list (h : m.Faithful) (p : Path) : m.list fs p = (fs.list p).map m.enumerate := by
  rw [Machine.list, h.granted]

theorem list_eq_ok {p : Path} {entries : Directory} : m.list fs p = .ok entries ↔
    m.refused p = none ∧ ∃ listed, fs.list p = .ok listed ∧ m.enumerate listed = entries := by
  unfold Machine.list
  cases m.refused p with
  | some fault => simp
  | none => cases fs.list p <;> simp [Except.map]

theorem openShard_eq_ok {p : Path} {shard : Shard} : m.openShard fs p = .ok shard ↔
    m.refused p = none ∧ fs.openShard p = .ok shard := by
  unfold Machine.openShard
  cases m.refused p <;> simp

theorem Faithful.openShard (h : m.Faithful) (p : Path) : m.openShard fs p = fs.openShard p := by
  rw [Machine.openShard, h.granted]

/-- A machine that lists directories in their own order and works with one thread. -/
theorem reliable_default : ({} : Machine).Reliable where
  lists _ := List.Perm.refl _
  granted _ := rfl
  fair _ _ := List.Perm.refl _
  started _ := rfl

end Machine

end GraphDisk
