import GraphDisk.Proofs.UnorderedDisk.Layout

/-!
# Reading that fails

Reading a shard directory changes nothing but the entity of its guid in the store, and nothing at all if it fails
(`UnorderedDisk.internalize_outcome`). It fails in three ways, one after the other. What is wrong with the request is
found in the store alone (`Store.requestFault?`): the guid, the kind, and the vertex sets that the kind needs. Then the
files are read, and a data file gives no rows iff it is `UnorderedDisk.Unsound` or `UnorderedDisk.Fatal`
(`UnorderedDisk.readFile_fails`). All errors of files are of one class, wherever they are
(`UnorderedDisk.rowsOf_error`), but on a fatal file the program may end without an error. Only then the rows are looked
at.
-/

namespace GraphDisk

/-! ## What is wrong with a request -/

section Requests

variable {s : Store} {g : Guid} {kind : Kind} {first second : Option Guid} {policy : DuplicatePolicy} {schema : Schema}
  {e : Error}

/-- **What can be wrong with a request to read**, before any file is looked at. -/
inductive Error.OfReadRequest : Error → Prop
  | invalidGuid (fault : Guid.Fault) : OfReadRequest (.invalidGuid fault)
  | unsupportedKind (name : String) : OfReadRequest (.unsupportedKind name)
  | dependencyNotFound (g : Guid) : OfReadRequest (.dependencyNotFound g)
  | dependencyKind (g : Guid) (expected found : Kind) : OfReadRequest (.dependencyKind g expected found)

/-- Why a guid is not that of a vertex set. No guid counts as the empty one. -/
def Store.dependencyFault? (s : Store) (g : Option Guid) : Option Error :=
  match s.get? (g.getD .unset) with
  | some (.vertexSet _) => none
  | some x => some (.dependencyKind (g.getD .unset) .vertexSet x.kind)
  | none => some (.dependencyNotFound (g.getD .unset))

/-- The vertex sets that an entity refers to, in the order in which they are looked up. -/
def Schema.references (first second : Option Guid) : Schema → List (Option Guid)
  | .vertex => []
  | .edge => [first, second]
  | .doubleAttribute | .stringAttribute | .pairAttribute => [first]

/-- **What is wrong with a request to read**, the guid before the kind and the kind before the vertex sets. -/
def Store.requestFault? (s : Store) (g : Guid) (kind : Kind) (first second : Option Guid) : Option Error :=
  match g.fault?, kind.schema? with
  | some fault, _ => some (.invalidGuid fault)
  | none, none => some (.unsupportedKind kind.name)
  | none, some schema => (schema.references first second).findSome? s.dependencyFault?

theorem Store.dependency_eq_error : s.dependency first = .error e ↔ s.dependencyFault? first = some e := by
  unfold Store.dependency Store.vertexSet Store.dependencyFault?
  cases hx : s.get? (first.getD .unset) with
  | none => simp [hx, bind, Except.bind]
  | some x => cases x <;> simp [hx, bind, Except.bind, pure, Except.pure]

theorem Store.dependency_ok (h : s.dependencyFault? first = none) : ∃ d, s.dependency first = .ok d := by
  rcases ok_or_error (s.dependency first) with hd | ⟨e, he⟩
  · exact hd
  · rw [Store.dependency_eq_error, h] at he
    cases he

theorem Store.dependencyFault?_ofReadRequest (h : s.dependencyFault? first = some e) : e.OfReadRequest := by
  unfold Store.dependencyFault? at h
  split at h
  · cases h
  · cases h
    exact .dependencyKind _ _ _
  · cases h
    exact .dependencyNotFound _

theorem Store.requestFault?_ofReadRequest (h : s.requestFault? g kind first second = some e) : e.OfReadRequest := by
  unfold Store.requestFault? at h
  split at h
  · cases h
    exact .invalidGuid _
  · cases h
    exact .unsupportedKind _
  · obtain ⟨r, -, hr⟩ := List.exists_of_findSome?_eq_some h
    exact Store.dependencyFault?_ofReadRequest hr

/-- **The vertex sets are looked up one after the other**, and the first one that is missing decides. -/
theorem Schema.builder_eq_error :
    schema.builder policy g s first second = .error e ↔
      (schema.references first second).findSome? s.dependencyFault? = some e := by
  have hone : ∀ {α : Type} {f : Dependency → α}, (do return f (← s.dependency first)) = Except.error e ↔
      [first].findSome? s.dependencyFault? = some e := by
    intro α f
    rw [List.findSome?_singleton, ← Store.dependency_eq_error]
    cases s.dependency first <;> simp [bind, Except.bind, pure, Except.pure]
  cases schema with
  | vertex => simp [builder, references]
  | edge =>
    simp only [builder, references, List.findSome?_cons, List.findSome?_nil]
    cases hf : s.dependencyFault? first with
    | some e' =>
      rw [Store.dependency_eq_error.mpr hf]
      simp [bind, Except.bind]
    | none =>
      obtain ⟨src, hsrc⟩ := Store.dependency_ok hf
      cases ht : s.dependencyFault? second with
      | some e' =>
        rw [hsrc, Store.dependency_eq_error.mpr ht]
        simp [bind, Except.bind]
      | none =>
        obtain ⟨dst, hdst⟩ := Store.dependency_ok ht
        rw [hsrc, hdst]
        simp [bind, Except.bind, pure, Except.pure]
  | doubleAttribute => exact hone
  | stringAttribute => exact hone
  | pairAttribute => exact hone

/-- **What can be wrong with the files**, and that the program ends on one of them. -/
def Error.OfFiles (e : Error) : Prop := e.code = "IO_ERROR" ∨ e = .table .halt

theorem Error.OfReadRequest.not_ofFiles (h : e.OfReadRequest) : ¬ e.OfFiles := by
  rintro (hcode | rfl)
  · cases h <;> simp [Error.code] at hcode
  · cases h

theorem Error.OfRows.not_ofReadRequest (h : e.OfRows) : ¬ e.OfReadRequest := by
  rintro (_ | _ | _ | _) <;> cases h

end Requests

/-! ## What is wrong with a file -/

namespace Shard

variable {t : Table} {shard : Shard} {s : Schema} {fault : FormatFault} {e : Error}
  {number room : Nat} {group : RowGroup}
  {codec : CodecConfig} {order : Schedule} {noThreads : Option IoFault}

theorem ofTable_eq_ok : ofTable t = .ok shard ↔ shard.table = t ∧ Schema.detect t.elements = .ok shard.schema ∧
    shard.schema.positions t.elements = .ok shard.positions := by
  have hempty : t.elements.isEmpty = true → ∀ s, Schema.detect t.elements ≠ .ok s := by
    intro he s
    rw [List.isEmpty_iff.mp he]
    cases s <;> decide
  unfold ofTable
  by_cases he : t.elements.isEmpty = true
  · rw [if_pos he]
    constructor
    · intro h
      cases h
    · rintro ⟨-, hs, -⟩
      exact absurd hs (hempty he _)
  · rw [if_neg he]
    constructor
    · intro h
      obtain ⟨s, hs, h⟩ := bind_eq_ok.mp h
      obtain ⟨positions, hpositions, h⟩ := bind_eq_ok.mp h
      cases h
      exact ⟨rfl, hs, hpositions⟩
    · rintro ⟨rfl, hs, hpositions⟩
      simp only [hs, hpositions, bind, Except.bind, pure, Except.pure]

theorem readGroup_fails : (∃ e, shard.readGroup s number group room = .error e) ↔
    (∃ values ∈ group.rows, ∃ e, shard.decode s values = .error e) ∨ group.rows.length ≠ group.stated := by
  have hlength : group.rows.length ≠ group.stated ↔ ¬ group.stated ≤ group.held := by
    rw [group.length_rows]
    omega
  rw [exists_error_iff, ← mapM_fails, exists_error_iff, hlength, ← not_and_or]
  simp only [readGroup_eq_ok, exists_and_right]

/-- As many rows are read as there are. -/
theorem length_of_groups {groups : List (List s.Row)}
    (h : shard.table.groups.zipIdx.mapM (fun x => shard.readGroup s x.2 x.1 room) = .ok groups) :
    groups.flatten.length = shard.table.rows.length := by
  have hgroups : List.Forall₂ (fun rows (x : RowGroup × Nat) => rows.length = x.1.rows.length) groups
      shard.table.groups.zipIdx :=
    ((mapM_eq_ok.mp h).imp fun x rows hx => ((mapM_eq_ok.mp (readGroup_eq_ok.mp hx).1).length_eq).symm).flip
  have hlengths : groups.map List.length = shard.table.groups.map fun g => g.rows.length := by
    rw [← List.zipIdx_map_fst 0 shard.table.groups, List.map_map, ← List.forall₂_eq_eq_eq,
      List.forall₂_map_left_iff, List.forall₂_map_right_iff]
    exact hgroups
  rw [List.length_flatten, hlengths, Table.rows, List.length_flatMap]

theorem readRows_fails (h : shard.schema = s) : (∃ e, shard.readRows s room = .error e) ↔
    (∃ group ∈ shard.table.groups, (∃ values ∈ group.rows, ∃ e, shard.decode s values = .error e) ∨
      group.rows.length ≠ group.stated) ∨ ¬ s.Reservable room shard.table.rows.length shard.table.rowCount := by
  have hgroups : (∃ e, shard.table.groups.zipIdx.mapM (fun x => shard.readGroup s x.2 x.1 room) = .error e) ↔
      ∃ group ∈ shard.table.groups, (∃ values ∈ group.rows, ∃ e, shard.decode s values = .error e) ∨
        group.rows.length ≠ group.stated := by
    rw [mapM_fails]
    constructor
    · rintro ⟨⟨group, i⟩, hmem, hfail⟩
      exact ⟨group, List.fst_mem_of_mem_zipIdx hmem, readGroup_fails.mp hfail⟩
    · rintro ⟨group, hmem, hfail⟩
      obtain ⟨i, hi, rfl⟩ := List.getElem_of_mem hmem
      exact ⟨(shard.table.groups[i], i), List.mk_mem_zipIdx_iff_getElem?.mpr (List.getElem?_eq_getElem hi),
        readGroup_fails.mpr hfail⟩
  have hok : (∃ rows, shard.readRows s room = .ok rows) ↔
      (∃ groups, shard.table.groups.zipIdx.mapM (fun x => shard.readGroup s x.2 x.1 room) = .ok groups) ∧
        s.Reservable room shard.table.rows.length shard.table.rowCount := by
    simp only [readRows_eq_ok h]
    constructor
    · rintro ⟨rows, groups, hok, hroom, -⟩
      exact ⟨⟨groups, hok⟩, length_of_groups hok ▸ hroom⟩
    · rintro ⟨⟨groups, hok⟩, hroom⟩
      exact ⟨_, groups, hok, (length_of_groups hok).symm ▸ hroom, rfl⟩
  rw [← hgroups, exists_error_iff, exists_error_iff, hok, not_and_or]

/-- **A shard on which the program ends.** A record of it has a value for which there is no field, or so many rows are
stated that there is no room for them. -/
inductive Fatal (room : Nat) (shard : Shard) (s : Schema) : Prop
  | record {group : RowGroup} {values : List (Option StoredValue)} : group ∈ shard.table.groups → values ∈ group.rows →
    shard.decode s values = .error (.table .halt) → Fatal room shard s
  | group {group : RowGroup} : group ∈ shard.table.groups → ¬ s.Reservable room group.held group.stated →
    Fatal room shard s
  | total : ¬ s.Reservable room shard.table.rows.length shard.table.rowCount → Fatal room shard s

theorem decode_error {values : List (Option StoredValue)} (h : shard.decode s values = .error e) : e.OfFiles := by
  unfold decode at h
  split at h
  · cases h
  · rename_i fault _
    cases h
    cases fault <;> simp [Error.OfFiles, Error.code]

theorem readGroup_error (h : shard.readGroup s number group room = .error e) : e.OfFiles := by
  rcases bind_eq_error.mp h with h | ⟨-, -, h⟩
  · exact Or.inr (Schema.reserve_eq_error.mp h).2.symm
  rcases bind_eq_error.mp h with h | ⟨rows, -, h⟩
  · obtain ⟨-, values, -, -, -, hv⟩ := mapM_eq_error.mp h
    exact decode_error hv
  · split at h
    · cases h
    · cases h
      exact Or.inl rfl

theorem ofFiles_of_readRowsBy (h : shard.readRowsBy codec order s noThreads room = .error e) : e.OfFiles := by
  by_cases hs : shard.schema = s
  · rcases readRowsBy_error hs h with ⟨-, fault, -, rfl⟩ | ⟨g, -, number, hread⟩ | ⟨groups, -, -, rfl⟩
    · exact Or.inl rfl
    · exact readGroup_error hread
    · exact Or.inr rfl
  · unfold readRowsBy at h
    rw [if_neg hs] at h
    cases h
    exact Or.inl rfl

/-- **What is fatal cannot be read.** -/
theorem Fatal.readRows (h : shard.Fatal room s) (hs : shard.schema = s) : ∃ e, shard.readRows s room = .error e := by
  rw [readRows_fails hs]
  cases h with
  | record hg hvalues hv => exact Or.inl ⟨_, hg, Or.inl ⟨_, hvalues, _, hv⟩⟩
  | @group group hg hno =>
    refine Or.inl ⟨group, hg, Or.inr fun hlength => hno (Or.inl ?_)⟩
    rw [group.length_rows] at hlength
    omega
  | total hno => exact Or.inr hno

end Shard

/-- The class of a failure is the same, whatever file it is about. -/
theorem Error.code_inFile (p : Path) (e : Error) : (e.inFile p).code = e.code := by
  cases e with
  | table fault => cases fault <;> rfl
  | _ => rfl

theorem Error.OfFiles.inFile {e : Error} (h : e.OfFiles) (p : Path) : (e.inFile p).OfFiles := by
  rcases h with h | rfl
  · exact Or.inl ((Error.code_inFile p e).trans h)
  · exact Or.inr rfl

namespace FileSystem

variable {fs : FileSystem} {p : Path} {shard : Shard} {e : Error}

theorem openShard_eq_ok : fs.openShard p = .ok shard ↔
    ∃ t, fs.find p = .ok (.file (.table t)) ∧ Shard.ofTable t = .ok shard := by
  unfold openShard
  constructor
  · intro h
    split at h
    · cases h
    · rename_i t ht
      split at h
      · rename_i shard' hshard
        cases h
        exact ⟨t, ht, hshard⟩
      · cases h
    · cases h
  · rintro ⟨t, ht, hshard⟩
    simp only [ht, hshard]

theorem openShard_error (h : fs.openShard p = .error e) : e.code = "IO_ERROR" := by
  unfold openShard at h
  split at h
  · cases h
    rfl
  · split at h
    · cases h
    · cases h
      rfl
  · cases h
    rfl

end FileSystem

namespace UnorderedDisk

variable {m : Machine} {d : UnorderedDisk} {s : Schema} {p : Path} {e : Error}

/-- **A file on which the program ends.** -/
def Fatal (m : Machine) (d : UnorderedDisk) (s : Schema) (p : Path) : Prop :=
  ∃ shard, d.files.openShard p = .ok shard ∧ shard.schema = s ∧ shard.Fatal m.room s

theorem readFile_error (h : d.readFile m s p = .error e) : e.OfFiles := by
  rcases bind_eq_error.mp h with h | ⟨shard, -, h⟩
  · unfold Machine.openShard at h
    split at h
    · cases h
      exact Or.inl rfl
    · exact Or.inl (FileSystem.openShard_error h)
  · split at h
    · cases h
    · rename_i e' he
      cases h
      exact (Shard.ofFiles_of_readRowsBy he).inFile p

variable {g : Guid} {kind : Kind} {first second : Option Guid} {directory : Path} {entries : Directory} {name : String}

theorem listing_error (h : d.listing m directory = .error e) : e.code = "IO_ERROR" := by
  unfold listing at h
  split at h
  · cases h
    rfl
  · simp only at h
    split at h
    · cases h
      rfl
    · cases h

/-- **Whatever is wrong with the files of a shard directory**, the class of the failure is the same, unless the program
ends. -/
theorem rowsOf_error (h : d.rowsOf m s directory = .error e) : e.OfFiles := by
  rcases bind_eq_error.mp h with h | ⟨l, -, h⟩
  · exact Or.inl (listing_error h)
  · rcases bind_eq_error.mp h with h | ⟨blocks, -, h⟩
    · obtain ⟨-, p, -, -, -, hp⟩ := mapM_eq_error.mp h
      exact readFile_error hp
    · cases h

section Directories

variable (hm : m.Thorough) (hlist : d.files.list directory = .ok entries)
include hm hlist

end Directories

/-! ## What reading does -/

theorem shardDirectory_of_valid (h : g.fault? = none) : d.shardDirectory g = .ok (d.place g) := by
  unfold shardDirectory Guid.entryName
  rw [h]
  rfl

theorem rebuild_of_requestFault (h : d.store.requestFault? g kind first second = some e) :
    d.rebuild m g kind first second = .error e := by
  unfold Store.requestFault? at h
  split at h
  · rename_i fault hfault
    cases h
    refine bind_eq_error.mpr (Or.inl ?_)
    unfold shardDirectory Guid.entryName
    rw [hfault]
    rfl
  · rename_i hguid hkind
    cases h
    obtain rfl : kind = .scalar := by cases kind <;> first | rfl | cases hkind
    unfold rebuild
    rw [shardDirectory_of_valid hguid]
    rfl
  · rename_i schema hguid hkind
    obtain rfl : schema.kind = kind := by cases kind <;> cases hkind <;> rfl
    rw [rebuild_eq (shardDirectory_of_valid hguid)]
    exact bind_eq_error.mpr (Or.inl (Schema.builder_eq_error.mpr h))

/-- A request with which nothing is wrong is carried out. -/
theorem rebuild_of_no_requestFault (m : Machine) (h : d.store.requestFault? g kind first second = none) :
    ∃ s build,
    kind.schema? = some s ∧ d.builder g first second s = .ok build ∧ d.rebuild m g kind first second =
      d.rowsOf m s (d.place g) >>= fun x =>
        (build x.1).map fun entity => (entity, ⟨g, kind, x.1.length, x.2, d.place g⟩) := by
  unfold Store.requestFault? at h
  split at h
  · cases h
  · cases h
  · rename_i schema hguid hkind
    obtain rfl : schema.kind = kind := by cases kind <;> cases hkind <;> rfl
    rcases ok_or_error (d.builder g first second schema) with ⟨build, hb⟩ | ⟨e, hb⟩
    · refine ⟨schema, build, hkind, hb, ?_⟩
      rw [rebuild_eq (shardDirectory_of_valid hguid), hb]
      rfl
    · rw [builder, Schema.builder_eq_error, h] at hb
      cases hb

/-- Once nothing is wrong with the request, only the files can be at fault and, after them, the rows. -/
theorem rebuild_error_of_no_requestFault (h : d.store.requestFault? g kind first second = none)
    (he : d.rebuild m g kind first second = .error e) : e.OfFiles ∨ e.OfRows := by
  obtain ⟨s, build, -, hb, hrebuild⟩ := rebuild_of_no_requestFault m h
  rw [hrebuild] at he
  rcases bind_eq_error.mp he with he | ⟨x, -, he⟩
  · exact Or.inl (rowsOf_error he)
  · exact Or.inr (Schema.build_error hb (map_eq_error he))

/-- **The faults of a request are those of the arguments and the store.** -/
theorem rebuild_requestFault (m : Machine) :
    d.rebuild m g kind first second = .error e ∧ e.OfReadRequest ↔
      d.store.requestFault? g kind first second = some e := by
  constructor
  · rintro ⟨he, hrequest⟩
    cases h : d.store.requestFault? g kind first second with
    | some e' =>
      rw [rebuild_of_requestFault h] at he
      cases he
      rfl
    | none =>
      exfalso
      rcases rebuild_error_of_no_requestFault h he with hfiles | hrows
      · exact hrequest.not_ofFiles hfiles
      · exact hrows.not_ofReadRequest hrequest
  · exact fun h => ⟨rebuild_of_requestFault h, Store.requestFault?_ofReadRequest h⟩

theorem internalize_eq_error (h : (d.internalizeOn m g kind first second).2 = .error e) :
    d.internalizeOn m g kind first second = (d, .error e) ∧ d.rebuild m g kind first second = .error e := by
  cases hr : d.rebuild m g kind first second with
  | error e' =>
    rw [internalize_of_rebuild_error hr] at h ⊢
    cases h
    exact ⟨rfl, rfl⟩
  | ok x =>
    rw [internalize_of_rebuild_ok hr] at h
    cases h

end UnorderedDisk

end GraphDisk
