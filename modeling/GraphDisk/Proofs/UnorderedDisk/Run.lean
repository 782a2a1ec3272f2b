import GraphDisk.Proofs.Outcome
import GraphDisk.Proofs.Store
import GraphDisk.UnorderedDisk

/-!
# Calls one after the other

A caller makes entities resident, writes and reads shard directories, directly or by requests, and asks the store
(`UnorderedDisk.Action`). One call makes at most one entity resident, and does so iff the answer is that of an install
or of a reading that has succeeded; every other call leaves the store as it is (`Action.perform_cases`). So a store that
reflects a record of writes still reflects it after any calls, with the writes among them
(`UnorderedDisk.reflects_run`), and what can be asked of the store is what the last writes of the run say
(`UnorderedDisk.store_is_last_writes`).
-/

namespace GraphDisk

namespace UnorderedDisk

/-- A call of a disk. -/
inductive Action where
  | install (g : Guid) (e : Entity)
  /-- Writes a shard directory, assembled under the given name, in a world that may refuse calls. -/
  | externalize (refused : Refusals) (stagingName : String) (g : Guid) (first second : Option Guid)
  /-- Reads a shard directory, where directories are listed in the given order. -/
  | internalize (m : Machine) (g : Guid) (kind : Kind) (first second : Option Guid)
  | write (refused : Refusals) (stagingName : String) (r : WriteRequest)
  | read (m : Machine) (r : ReadRequest)
  | get (g : Guid)
  | contains (g : Guid)
  | size
  | isEmpty
  | list
  | vertexSet (g : Guid)
  /-- No call of this disk: others change the files, or the store goes on with a disk of another configuration. -/
  | elsewhere (config : Config) (files : FileSystem)

/-- What a caller is told. -/
inductive Answer where
  /-- The entity that was replaced. -/
  | replaced (before : Option Entity)
  | externalized (outcome : Except Error Summary)
  | internalized (outcome : Except Error Summary)
  | written (outcome : Except Error Reply)
  | read (outcome : Except Error Reply)
  | entity (e : Option Entity)
  | truth (b : Bool)
  | number (n : Nat)
  | kinds (entries : List (Guid × Kind))
  | vertices (outcome : Except Error VertexSet)
  | nothing

/-- **An entity has been made resident**, as far as a caller is told. -/
def Answer.Installed : Answer → Prop
  | .replaced _ | .internalized (.ok _) | .read (.ok _) => True
  | _ => False

/-- The entity that a shard directory holds, with the guid under which it becomes resident. -/
def rebuilt? (m : Machine) (d : UnorderedDisk) (g : Guid) (kind : Kind)
    (first second : Option Guid) : Option (Guid × Entity) :=
  (d.rebuild m g kind first second).toOption.map fun x => (g, x.1)

namespace Action

/-- Carries out a call. -/
def perform (d : UnorderedDisk) : Action → UnorderedDisk × Answer
  | install g e => (d.install g e).map id .replaced
  | externalize refused stagingName g first second =>
    (d.externalizeAs refused stagingName g first second).map id .externalized
  | internalize m g kind first second => (d.internalizeOn m g kind first second).map id .internalized
  | write refused stagingName r => (d.writeAs refused stagingName r).map id .written
  | read m r => (d.readOn m r).map id .read
  | get g => (d, .entity (d.store.get? g))
  | contains g => (d, .truth (d.store.contains g))
  | size => (d, .number d.store.size)
  | isEmpty => (d, .truth d.store.isEmpty)
  | list => (d, .kinds d.store.list)
  | vertexSet g => (d, .vertices (d.store.vertexSet g))
  | elsewhere config files => ({ d with config, files }, .nothing)

/-- The entity that a call makes resident, and its guid: the one that is handed over, or the one that a shard directory
holds. -/
def write? (d : UnorderedDisk) : Action → Option (Guid × Entity)
  | install g e => some (g, e)
  | internalize m g kind first second => d.rebuilt? m g kind first second
  | read m r =>
    (Kind.ofName? r.kind).bind fun kind => d.rebuilt? m r.guid kind (Guid.orNone r.first) (Guid.orNone r.second)
  | _ => none

end Action

/-- Carries out calls one after the other. -/
def run (d : UnorderedDisk) (ops : List Action) : UnorderedDisk := ops.foldl (fun d op => (op.perform d).1) d

/-- The entities that calls make resident, in order, each with its guid. -/
def writes (d : UnorderedDisk) : List Action → List (Guid × Entity)
  | [] => []
  | op :: ops => (op.write? d).toList ++ writes (op.perform d).1 ops

/-- A disk with an empty store. -/
def start (config : Config) (files : FileSystem) : UnorderedDisk := { config, store := .empty, files }

variable {d : UnorderedDisk} {g : Guid} {kind : Kind} {first second : Option Guid} {m : Machine}
  {ops : List Action} {log : List (Guid × Entity)} {k : Guid} {e : Entity}

/-! ## One call -/

theorem store_externalizeAs (refused : Refusals) (stagingName : String) (d : UnorderedDisk) (g : Guid)
    (first second : Option Guid) : (d.externalizeAs refused stagingName g first second).1.store = d.store := by
  unfold externalizeAs
  split
  · rfl
  · split <;> rfl

/-- A reading either makes the entity of a shard directory resident or fails. -/
theorem internalizeOn_cases (m : Machine) (d : UnorderedDisk) (g : Guid) (kind : Kind)
    (first second : Option Guid) :
    (∃ k e summary, d.rebuilt? m g kind first second = some (k, e) ∧
      d.internalizeOn m g kind first second = ({ d with store := d.store.install k e }, .ok summary)) ∨
    (∃ error, d.rebuilt? m g kind first second = none ∧
      d.internalizeOn m g kind first second = (d, .error error)) := by
  unfold rebuilt? internalizeOn
  cases d.rebuild m g kind first second with
  | ok x => exact Or.inl ⟨g, x.1, x.2, rfl, rfl⟩
  | error error => exact Or.inr ⟨error, rfl, rfl⟩

theorem read_of_ofName? {r : ReadRequest} (h : Kind.ofName? r.kind = some kind) :
    d.readOn m r = (d.internalizeOn m r.guid kind (Guid.orNone r.first) (Guid.orNone r.second)).map id
      (Except.map fun _ => {}) := by
  unfold readOn
  rw [h]
  rfl

theorem read_of_unsupported {r : ReadRequest} (h : Kind.ofName? r.kind = none) :
    d.readOn m r = (d, .error (.unsupportedKind r.kind)) := by
  unfold readOn
  rw [h]

/-- A call either makes an entity resident and says so, or it leaves the store as it is and says nothing of that kind.
-/
theorem Action.perform_cases (d : UnorderedDisk) (op : Action) :
    (∃ k e, op.write? d = some (k, e) ∧ (op.perform d).1.store = d.store.install k e ∧ (op.perform d).2.Installed) ∨
    (op.write? d = none ∧ (op.perform d).1.store = d.store ∧ ¬ (op.perform d).2.Installed) := by
  cases op with
  | install g e => exact Or.inl ⟨g, e, rfl, rfl, trivial⟩
  | externalize refused stagingName g first second =>
    exact Or.inr ⟨rfl, store_externalizeAs refused stagingName d g first second, id⟩
  | internalize m g kind first second =>
    rcases internalizeOn_cases m d g kind first second with ⟨k, e, summary, hw, hd⟩ | ⟨error, hw, hd⟩
    · refine Or.inl ⟨k, e, hw, ?_⟩
      simp [perform, hd, Answer.Installed]
    · refine Or.inr ⟨hw, ?_⟩
      simp [perform, hd, Answer.Installed]
  | write refused stagingName r => exact Or.inr ⟨rfl, store_externalizeAs .., id⟩
  | read m r =>
    cases hkind : Kind.ofName? r.kind with
    | none => exact Or.inr (by simp [perform, write?, hkind, read_of_unsupported hkind, Answer.Installed])
    | some kind =>
      rcases internalizeOn_cases m d r.guid kind (Guid.orNone r.first) (Guid.orNone r.second) with
        ⟨k, e, summary, hw, hd⟩ | ⟨error, hw, hd⟩
      · refine Or.inl ⟨k, e, ?_⟩
        simp [perform, write?, hkind, read_of_ofName? hkind, hw, hd, Except.map, Answer.Installed]
      · refine Or.inr ?_
        simp [perform, write?, hkind, read_of_ofName? hkind, hw, hd, Except.map, Answer.Installed]
  | _ => exact Or.inr ⟨rfl, rfl, id⟩

/-- A store that reflects a record reflects it after a call, too, with what the call has written. -/
theorem Action.reflects_perform (h : d.store.Reflects log) (op : Action) :
    (op.perform d).1.store.Reflects (log ++ (op.write? d).toList) := by
  rcases op.perform_cases d with ⟨k, e, hw, hstore, -⟩ | ⟨hw, hstore, -⟩
  · rw [hw, hstore]
    exact h.install k e
  · rw [hw, hstore, Option.toList_none, List.append_nil]
    exact h

/-- A call makes an entity resident iff its answer says so. -/
theorem Action.installed_iff (d : UnorderedDisk) (op : Action) :
    (op.perform d).2.Installed ↔ (op.write? d).isSome := by
  rcases op.perform_cases d with ⟨k, e, hw, -, hsays⟩ | ⟨hw, -, hnot⟩
  · simp [hw, hsays]
  · simp [hw, hnot]

/-- A call that does not say so leaves the store as it is. -/
theorem Action.store_of_not_installed {op : Action} (h : ¬ (op.perform d).2.Installed) :
    (op.perform d).1.store = d.store := by
  rcases op.perform_cases d with ⟨k, e, -, -, hsays⟩ | ⟨-, hstore, -⟩
  · exact absurd hsays h
  · exact hstore

/-! ## A run -/

/-- A store that reflects a record reflects it after any calls, too, with what the calls have written. -/
theorem reflects_run (ops : List Action) : ∀ {d : UnorderedDisk} {log : List (Guid × Entity)},
    d.store.Reflects log → (d.run ops).store.Reflects (log ++ d.writes ops) := by
  induction ops with
  | nil =>
    intro d log h
    simpa [run, writes] using h
  | cons op ops ih =>
    intro d log h
    have hrest := ih (op.reflects_perform h)
    rw [List.append_assoc] at hrest
    exact hrest

/-- What is resident stays resident. -/
theorem contains_run (h : d.store.Reflects log) (ops : List Action) (hg : d.store.contains g = true) :
    (d.run ops).store.contains g = true := by
  have hmem : g ∈ log.map Prod.fst := isSome_lastWrite.mp ((h.contains g).mp hg)
  rw [(reflects_run ops h).contains, isSome_lastWrite, List.map_append]
  exact List.mem_append_left _ hmem

/-- **The store is the last-write map of the run.** After any calls from the empty store, with any failures among them,
all that the store can be asked is what the last writes say; to install an entity gives the one that was there just
before; a call that makes no entity resident, as its answer tells, leaves the store as it is; and no entity is ever
lost. -/
theorem store_is_last_writes (config : Config) (files : FileSystem) (ops : List Action) :
    ((start config files).run ops).store.Reflects ((start config files).writes ops) ∧
    (∀ g e, ((Action.install g e).perform ((start config files).run ops)).2 =
      .replaced (lastWrite ((start config files).writes ops) g)) ∧
    (∀ op : Action, ¬ (op.perform ((start config files).run ops)).2.Installed →
      (op.perform ((start config files).run ops)).1.store = ((start config files).run ops).store) ∧
    (∀ op : Action, (op.perform ((start config files).run ops)).2.Installed ↔
      (op.write? ((start config files).run ops)).isSome) ∧
    ∀ more g, ((start config files).run ops).store.contains g = true →
      ((start config files).run (ops ++ more)).store.contains g = true := by
  have hreflects : ((start config files).run ops).store.Reflects ((start config files).writes ops) :=
    reflects_run ops (d := start config files) Store.reflects_empty
  refine ⟨hreflects, fun g e => ?_, fun op => Action.store_of_not_installed, fun op => op.installed_iff _, ?_⟩
  · rw [← hreflects.get]
    rfl
  · intro more g hg
    unfold run at *
    rw [List.foldl_append]
    exact contains_run hreflects more hg

end UnorderedDisk

end GraphDisk
