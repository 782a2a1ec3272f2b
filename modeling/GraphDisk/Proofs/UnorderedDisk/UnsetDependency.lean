import GraphDisk.Json.Reader
import GraphDisk.Proofs.UnorderedDisk.ExternalView
import GraphDisk.Proofs.UnorderedDisk.FailedRead
import GraphDisk.Proofs.UnorderedDisk.Run

/-!
# Vertex sets that are left unset

A vertex set that is needed but not named is looked up under the empty guid. It is missing like any other guid without
an entity, unless someone has installed an entity under the empty guid: nothing forbids that, though no shard directory
can be written or read there. So a call that leaves a needed vertex set unset fails with a missing dependency iff no
such entity has been installed (`UnorderedDisk.unset_dependency`), in whichever of its forms the call leaves it unset.
-/

namespace GraphDisk

open Json (Document)

/-! ## Dependencies that are missing -/

section Missing

variable {s : Store} {x : Entity} {schema : Schema} {kind : Kind} {g k : Guid}
  {first second r : Option Guid} {e : Error}

/-- What is reported as missing is missing. -/
theorem Store.get?_of_dependencyFault? (h : s.dependencyFault? r = some (.dependencyNotFound k)) : s.get? k = none := by
  unfold Store.dependencyFault? at h
  split at h
  · cases h
  · cases h
  · rename_i hnone
    cases h
    exact hnone

theorem Store.get?_of_references {schema : Schema}
    (h : (schema.references first second).findSome? s.dependencyFault? = some (.dependencyNotFound k)) :
    s.get? k = none := by
  obtain ⟨r, -, hr⟩ := List.exists_of_findSome?_eq_some h
  exact Store.get?_of_dependencyFault? hr

/-- **Writing looks vertex sets up as reading does**: the first one that is missing decides, or all of them are found.
-/
theorem Entity.externalRows_cases (s : Store) (first second : Option Guid) (hs : x.kind.schema? = some schema) :
    (∃ e, (schema.references first second).findSome? s.dependencyFault? = some e ∧
      x.externalRows s first second = .error e) ∨
    ((schema.references first second).findSome? s.dependencyFault? = none ∧
      ∃ src dst, x.Resolved s first second src dst) := by
  have hattribute : ∀ {f : Dependency → Except Error RowBlock},
      (∃ e, [first].findSome? s.dependencyFault? = some e ∧ (s.dependency first >>= f) = .error e) ∨
      ([first].findSome? s.dependencyFault? = none ∧ ∃ src _ : Dependency, s.dependency first = .ok src) := by
    intro f
    rw [List.findSome?_singleton]
    cases hf : s.dependencyFault? first with
    | none =>
      obtain ⟨src, hsrc⟩ := Store.dependency_ok hf
      exact Or.inr ⟨rfl, src, src, hsrc⟩
    | some e =>
      rw [Store.dependency_eq_error.mpr hf]
      exact Or.inl ⟨e, rfl, rfl⟩
  cases x with
  | scalar v => cases hs
  | vertexSet vs =>
    cases hs
    exact Or.inr ⟨rfl, ⟨.unset, vs⟩, ⟨.unset, vs⟩, trivial⟩
  | edgeBundle eb =>
    cases hs
    simp only [Schema.references, List.findSome?_cons, List.findSome?_nil, externalRows]
    cases hf : s.dependencyFault? first with
    | some e =>
      rw [Store.dependency_eq_error.mpr hf]
      exact Or.inl ⟨e, rfl, rfl⟩
    | none =>
      obtain ⟨src, hsrc⟩ := Store.dependency_ok hf
      cases ht : s.dependencyFault? second with
      | some e =>
        rw [hsrc, Store.dependency_eq_error.mpr ht]
        exact Or.inl ⟨e, rfl, rfl⟩
      | none =>
        obtain ⟨dst, hdst⟩ := Store.dependency_ok ht
        exact Or.inr ⟨rfl, src, dst, hsrc, hdst⟩
  | doubleAttribute a =>
    cases hs
    exact hattribute
  | stringAttribute a =>
    cases hs
    exact hattribute
  | pairAttribute a =>
    cases hs
    exact hattribute

/-- A dependency that writing reports as missing is missing. -/
theorem Entity.get?_of_externalRows (h : x.externalRows s first second = .error (.dependencyNotFound k)) :
    s.get? k = none := by
  cases hs : x.kind.schema? with
  | none =>
    obtain ⟨v, rfl⟩ : ∃ v, x = .scalar v := by cases x <;> first | exact ⟨_, rfl⟩ | cases hs
    cases h
  | some schema =>
    rcases externalRows_cases s first second hs with ⟨e, hfault, he⟩ | ⟨-, src, dst, hr⟩
    · rw [h] at he
      cases he
      exact Store.get?_of_references hfault
    · have htranslated := translated_externalRows hr
      rw [h] at htranslated
      obtain ⟨-, u, -, -, -, -, he⟩ := htranslated
      cases he

/-- **A vertex set that a kind needs is left unset**, and it is the first one that could be missing: an attribute needs
one vertex set, edges need two. -/
inductive Store.LeavesUnset (s : Store) : Kind → Option Guid → Option Guid → Prop
  | slots (sort : AttributeSort) (second : Option Guid) : LeavesUnset s sort.kind none second
  | sources (second : Option Guid) : LeavesUnset s .edgeBundle none second
  | destinations {g : Guid} {vs : VertexSet} : s.get? g = some (.vertexSet vs) → LeavesUnset s .edgeBundle (some g) none

theorem Store.LeavesUnset.fault (h : s.LeavesUnset kind first second) (hunset : s.get? .unset = none) :
    ∃ schema, kind.schema? = some schema ∧
      (schema.references first second).findSome? s.dependencyFault? = some (.dependencyNotFound .unset) := by
  have hnone : s.dependencyFault? none = some (.dependencyNotFound .unset) := by
    unfold Store.dependencyFault?
    simp only [Option.getD_none, hunset]
  cases h with
  | slots sort =>
    refine ⟨sort.schema, by cases sort <;> rfl, ?_⟩
    cases sort <;> simp [AttributeSort.schema, Schema.references, hnone]
  | sources => exact ⟨.edge, rfl, by simp [Schema.references, hnone]⟩
  | @destinations g vs hg =>
    have hfound : s.dependencyFault? (some g) = none := by
      unfold Store.dependencyFault?
      simp only [Option.getD_some, hg]
    exact ⟨.edge, rfl, by simp [Schema.references, hfound, hnone]⟩

end Missing

namespace UnorderedDisk

variable {d : UnorderedDisk} {g : Guid} {kind : Kind} {first second : Option Guid} {refused : Refusals} {name : String}
  {m : Machine} {x : Entity} {ops : List Action} {config : Config} {files : FileSystem}

/-! ## The entity under the empty guid -/

theorem rebuilt?_fst {k : Guid} {e : Entity} (h : d.rebuilt? m g kind first second = some (k, e)) :
    k = g ∧ g.fault? = none := by
  obtain ⟨y, hy, hw⟩ := Option.map_eq_some_iff.mp h
  cases hw
  refine ⟨rfl, ?_⟩
  cases hfault : g.fault? with
  | none => rfl
  | some fault =>
    have hrequest : d.store.requestFault? g kind first second = some (.invalidGuid fault) := by
      unfold Store.requestFault?
      simp only [hfault]
    rw [rebuild_of_requestFault hrequest] at hy
    cases hy

/-- Only to install it makes an entity resident under the empty guid: no shard directory has that name. -/
theorem Action.write?_unset {op : Action} {e : Entity} : op.write? d = some (.unset, e) ↔ op = .install .unset e := by
  have hrebuilt : ∀ {m g kind first second}, d.rebuilt? m g kind first second ≠ some (.unset, e) := by
    intro m g kind first second h
    obtain ⟨rfl, hvalid⟩ := rebuilt?_fst h
    cases hvalid
  cases op with
  | install g x => simp [write?]
  | internalize m g kind first second => simpa [write?] using hrebuilt
  | read m r =>
    cases hkind : Kind.ofName? r.kind with
    | none => simp [write?, hkind]
    | some kind => simpa [write?, hkind] using hrebuilt
  | _ => simp [write?]

theorem mem_writes_unset {e : Entity} (ops : List Action) : ∀ d : UnorderedDisk,
    (.unset, e) ∈ d.writes ops ↔ Action.install .unset e ∈ ops := by
  induction ops with
  | nil => simp [writes]
  | cons op ops ih =>
    intro d
    rw [writes, List.mem_append, ih, Option.mem_toList, Action.write?_unset, List.mem_cons, eq_comm]

/-- **An entity is under the empty guid** iff one has been installed there. -/
theorem get?_unset_run (config : Config) (files : FileSystem) (ops : List Action) :
    ((start config files).run ops).store.get? .unset = none ↔ ∀ e, Action.install .unset e ∉ ops := by
  have hreflects := reflects_run ops (d := start config files) Store.reflects_empty
  rw [hreflects.get, List.nil_append, ← Option.not_isSome_iff_eq_none, isSome_lastWrite]
  constructor
  · intro hno e hmem
    exact hno (List.mem_map_of_mem ((mem_writes_unset ops _).mpr hmem))
  · intro hno hmem
    obtain ⟨⟨k, e⟩, hw, rfl⟩ := List.mem_map.mp hmem
    exact hno e ((mem_writes_unset ops _).mp hw)

/-! ## Ways to leave a vertex set unset -/

/-- The error that a caller is told. -/
def Answer.error? : Answer → Option Error
  | .externalized outcome => reason? outcome
  | .internalized outcome => reason? outcome
  | .written outcome => reason? outcome
  | .read outcome => reason? outcome
  | .vertices outcome => reason? outcome
  | _ => none

/-- **A call that writes a shard directory**, directly or by a request, in which the empty guid stands for none. -/
inductive Action.Writes (g : Guid) (first second : Option Guid) : Action → Prop
  | direct (refused : Refusals) (name : String) : Writes g first second (.externalize refused name g first second)
  | request (refused : Refusals) (name : String) {r : WriteRequest} : r.guid = g → Guid.orNone r.first = first →
    Guid.orNone r.second = second → Writes g first second (.write refused name r)

/-- **A call that reads a shard directory**, directly or by a request, in which the empty guid stands for none. -/
inductive Action.Reads (g : Guid) (kind : Kind) (first second : Option Guid) : Action → Prop
  | direct (m : Machine) : Reads g kind first second (.internalize m g kind first second)
  | request (m : Machine) {r : ReadRequest} : r.guid = g → Kind.ofName? r.kind = some kind →
    Guid.orNone r.first = first → Guid.orNone r.second = second → Reads g kind first second (.read m r)

theorem reason?_map {ε α β : Type} {f : α → β} (outcome : Except ε α) : reason? (outcome.map f) = reason? outcome := by
  cases outcome <;> rfl

/-- Whoever writes a shard directory does it in one way. -/
theorem Action.Writes.perform {op : Action} (h : op.Writes g first second) (d : UnorderedDisk) : ∃ refused name,
    (op.perform d).1 = (d.externalizeAs refused name g first second).1 ∧
    (op.perform d).2.error? = reason? (d.externalizeAs refused name g first second).2 := by
  cases h with
  | direct refused name => exact ⟨refused, name, rfl, rfl⟩
  | request refused name hg hfirst hsecond =>
    subst hg hfirst hsecond
    exact ⟨refused, name, rfl, reason?_map _⟩

/-- Whoever reads a shard directory does it in one way. -/
theorem Action.Reads.perform {op : Action} (h : op.Reads g kind first second) (d : UnorderedDisk) : ∃ m,
    (op.perform d).1 = (d.internalizeOn m g kind first second).1 ∧
    (op.perform d).2.error? = reason? (d.internalizeOn m g kind first second).2 := by
  cases h with
  | direct m => exact ⟨m, rfl, rfl⟩
  | request m hg hkind hfirst hsecond =>
    subst hg hfirst hsecond
    simp only [Action.perform, read_of_ofName? hkind]
    exact ⟨m, rfl, reason?_map _⟩

end UnorderedDisk

/-- **What the field of a guid means**: no guid if it is absent, null or empty. -/
inductive Guid.Meant : Option Document → Option Guid → Prop
  | absent : Meant none none
  | null : Meant (some .null) none
  | empty : Meant (some (.string (some ""))) none
  | named {text : String} : text ≠ "" → Meant (some (.string (some text))) (some ⟨text⟩)

theorem Guid.Meant.optional? {field : Option Document} {g : Option Guid} (h : Guid.Meant field g) :
    ∃ read, Document.optional? Guid.ofDocument? field = some read ∧ Guid.orNone read = g := by
  cases h with
  | absent => exact ⟨none, rfl, rfl⟩
  | null => exact ⟨none, rfl, rfl⟩
  | empty => exact ⟨some ⟨""⟩, rfl, rfl⟩
  | @named text hne =>
    refine ⟨some ⟨text⟩, rfl, ?_⟩
    simp [Guid.orNone, Option.filter, Guid.isUnset, hne]

section Requests

variable {text : String} {doc : Document} {first second : Option Guid}
  {field₁ field₂ : Option Document} {g : Guid} {kind : Kind}

/-- A request to write with the given fields. -/
theorem WriteRequest.parse?_of_fields (hdoc : Document.parse? text = some doc)
    (hfields : doc.fields? WriteRequest.fieldNames = some [some (.string g.text), field₁, field₂])
    (h₁ : Guid.Meant field₁ first) (h₂ : Guid.Meant field₂ second) :
    ∃ r, WriteRequest.parse? text = some r ∧
      ∀ refused name, (UnorderedDisk.Action.write refused name r).Writes g first second := by
  obtain ⟨read₁, hread₁, hfirst⟩ := h₁.optional?
  obtain ⟨read₂, hread₂, hsecond⟩ := h₂.optional?
  refine ⟨⟨g, read₁, read₂⟩, ?_, fun _ _ => .request _ _ rfl hfirst hsecond⟩
  unfold WriteRequest.parse? WriteRequest.ofDocument?
  simp [hdoc, hfields, hread₁, hread₂, Document.required?, Guid.ofDocument?, Document.string?]

/-- A request to read with the given fields. -/
theorem ReadRequest.parse?_of_fields (hdoc : Document.parse? text = some doc)
    (hfields : doc.fields? ReadRequest.fieldNames =
      some [some (.string g.text), some (.string kind.name), field₁, field₂])
    (h₁ : Guid.Meant field₁ first) (h₂ : Guid.Meant field₂ second) :
    ∃ r, ReadRequest.parse? text = some r ∧ ∀ m, (UnorderedDisk.Action.read m r).Reads g kind first second := by
  obtain ⟨read₁, hread₁, hfirst⟩ := h₁.optional?
  obtain ⟨read₂, hread₂, hsecond⟩ := h₂.optional?
  have hkind : Kind.ofName? kind.name = some kind := by cases kind <;> decide
  refine ⟨⟨g, kind.name, read₁, read₂⟩, ?_, fun _ => .request _ rfl hkind hfirst hsecond⟩
  unfold ReadRequest.parse? ReadRequest.ofDocument?
  simp [hdoc, hfields, hread₁, hread₂, Document.required?, Guid.ofDocument?, Document.string?]

end Requests

namespace UnorderedDisk

variable {d : UnorderedDisk} {g : Guid} {kind : Kind} {first second : Option Guid} {refused : Refusals} {name : String}
  {m : Machine} {x : Entity} {op : Action}

/-! ## What becomes of it -/

/-- A dependency that is reported as missing is missing. -/
theorem get?_of_externalizeAs {k : Guid}
    (h : (d.externalizeAs refused name g first second).2 = .error (.dependencyNotFound k)) : d.store.get? k = none := by
  obtain ⟨-, hp⟩ | ⟨p, schema, rows, files, fault, -, -, -, he⟩ := externalizeAs_error (Prod.ext rfl h)
  · unfold publication at hp
    rcases bind_eq_error.mp hp with hp | ⟨text, -, hp⟩
    · unfold Guid.entryName at hp
      split at hp <;> cases hp
    · split at hp
      · cases hp
      · rcases bind_eq_error.mp hp with hp | ⟨block, -, hp⟩
        · exact Entity.get?_of_externalRows hp
        · rw [Table.ofRows_eq] at hp
          cases hp
  · cases he

theorem get?_of_internalizeOn {k : Guid}
    (h : (d.internalizeOn m g kind first second).2 = .error (.dependencyNotFound k)) :
    d.store.get? k = none := by
  have hfault := (rebuild_requestFault m).mp ⟨(internalize_eq_error h).2, .dependencyNotFound k⟩
  unfold Store.requestFault? at hfault
  split at hfault
  · cases hfault
  · cases hfault
  · exact Store.get?_of_references hfault

theorem externalizeAs_of_leavesUnset (hg : g.fault? = none) (hx : d.store.get? g = some x)
    (h : d.store.LeavesUnset x.kind first second) (hunset : d.store.get? .unset = none) :
    d.externalizeAs refused name g first second = (d, .error (.dependencyNotFound .unset)) := by
  obtain ⟨schema, hschema, hfault⟩ := h.fault hunset
  rcases Entity.externalRows_cases d.store first second hschema with ⟨e, he, hrows⟩ | ⟨hnone, -⟩
  · rw [hfault] at he
    cases he
    exact externalizeAs_of_fault refused name hg hx hrows
  · rw [hfault] at hnone
    cases hnone

theorem internalizeOn_of_leavesUnset (hg : g.fault? = none) (h : d.store.LeavesUnset kind first second)
    (hunset : d.store.get? .unset = none) :
    d.internalizeOn m g kind first second = (d, .error (.dependencyNotFound .unset)) := by
  obtain ⟨schema, hschema, hfault⟩ := h.fault hunset
  refine internalize_of_rebuild_error (rebuild_of_requestFault ?_)
  unfold Store.requestFault?
  simp only [hg, hschema, hfault]

/-- **A needed vertex set that is left unset is missing** iff no entity has been installed under the empty guid. Then
writing and reading change nothing and say that it is missing, whether they are called directly or by a request, and
whether the request has no field for the vertex set, or one that is null or empty. -/
theorem unset_dependency (config : Config) (files : FileSystem) (ops : List Action)
    (hd : d = (start config files).run ops) (hg : g.fault? = none) (h : d.store.LeavesUnset kind first second) :
    (∀ op : Action, (op.Writes g first second ∧ ∃ x, d.store.get? g = some x ∧ x.kind = kind) ∨
        op.Reads g kind first second →
      ((op.perform d).2.error? = some (.dependencyNotFound .unset) ↔ ∀ x, Action.install .unset x ∉ ops) ∧
      ((∀ x, Action.install .unset x ∉ ops) → (op.perform d).1 = d)) ∧
    ∀ text doc field₁ field₂, Document.parse? text = some doc → Guid.Meant field₁ first → Guid.Meant field₂ second →
      (doc.fields? WriteRequest.fieldNames = some [some (.string g.text), field₁, field₂] →
        ∃ r, WriteRequest.parse? text = some r ∧
          ∀ refused name, (Action.write refused name r).Writes g first second) ∧
      (doc.fields? ReadRequest.fieldNames = some [some (.string g.text), some (.string kind.name), field₁, field₂] →
        ∃ r, ReadRequest.parse? text = some r ∧ ∀ m, (Action.read m r).Reads g kind first second) := by
  have hunset : d.store.get? .unset = none ↔ ∀ x, Action.install .unset x ∉ ops := by
    rw [hd]
    exact get?_unset_run config files ops
  refine ⟨fun op hop => ?_, fun text doc field₁ field₂ hdoc h₁ h₂ => ⟨fun hfields => ?_, fun hfields => ?_⟩⟩
  · rw [← hunset]
    rcases hop with ⟨hwrites, x, hx, rfl⟩ | hreads
    · obtain ⟨refused, name, hdisk, herror⟩ := hwrites.perform d
      rw [hdisk, herror]
      refine ⟨⟨fun he => get?_of_externalizeAs (eq_error_of_reason? he), fun hnone => ?_⟩, fun hnone => ?_⟩
      · rw [externalizeAs_of_leavesUnset hg hx h hnone]
        rfl
      · rw [externalizeAs_of_leavesUnset hg hx h hnone]
    · obtain ⟨m, hdisk, herror⟩ := hreads.perform d
      rw [hdisk, herror]
      refine ⟨⟨fun he => get?_of_internalizeOn (eq_error_of_reason? he), fun hnone => ?_⟩, fun hnone => ?_⟩
      · rw [internalizeOn_of_leavesUnset hg h hnone]
        rfl
      · rw [internalizeOn_of_leavesUnset hg h hnone]
  · exact WriteRequest.parse?_of_fields hdoc hfields h₁ h₂
  · exact ReadRequest.parse?_of_fields hdoc hfields h₁ h₂

/-- An attribute with one slot is installed. -/
def attributeInstalled : List Action := [.install ⟨"a"⟩ (.stringAttribute oneSlot)]

theorem unset_dependency_not_found :
    ((Action.write .none ".staging" ⟨⟨"a"⟩, none, none⟩).perform
      ((start {} .empty).run attributeInstalled)).2.error? = some (.dependencyNotFound .unset) ∧
    ((Action.read {} ⟨⟨"a"⟩, "StringAttribute", some ⟨""⟩, none⟩).perform
      ((start {} .empty).run attributeInstalled)).2.error? = some (.dependencyNotFound .unset) := by
  have hnever : ∀ x, Action.install .unset x ∉ attributeInstalled := by
    intro x hmem
    simp [attributeInstalled, Guid.unset] at hmem
  obtain ⟨hcalls, -⟩ := unset_dependency (g := ⟨"a"⟩) {} .empty attributeInstalled rfl (by decide +kernel)
    (.slots .string none)
  have hwrites : (Action.write .none ".staging" ⟨⟨"a"⟩, none, none⟩).Writes ⟨"a"⟩ none none := .request _ _ rfl rfl rfl
  have hreads : (Action.read {} ⟨⟨"a"⟩, "StringAttribute", some ⟨""⟩, none⟩).Reads ⟨"a"⟩ .stringAttribute none none :=
    .request _ rfl (by decide) (by decide) rfl
  exact ⟨(hcalls _ (Or.inl ⟨hwrites, _, rfl, rfl⟩)).1.mpr hnever, (hcalls _ (Or.inr hreads)).1.mpr hnever⟩

/-- A vertex set is installed under the empty guid, and then the attribute. -/
def unsetInstalled : List Action := .install .unset (.vertexSet (.ofIds #[7])) :: attributeInstalled

/-- **A vertex set that is left unset is found** under the empty guid. -/
theorem unset_dependency_found :
    (((start {} .empty).run unsetInstalled).externalize ⟨"a"⟩ none none).2.toOption =
      some ⟨⟨"a"⟩, .stringAttribute, 1, 1, ⟨"data/unordered/a"⟩⟩ ∧
    (((start {} .empty).run unsetInstalled).write ⟨⟨"a"⟩, some ⟨""⟩, none⟩).2.toOption = some {} := by
  decide +kernel

end UnorderedDisk

end GraphDisk
