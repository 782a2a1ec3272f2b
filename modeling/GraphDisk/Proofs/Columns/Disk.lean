import GraphDisk.Proofs.Columns.Entity
import GraphDisk.Proofs.UnorderedDisk.Builder

/-!
# A disk that holds columns

A disk whose store holds columns in place of entities works like the unordered disk, but nothing keeps its columns
aligned, and writing and reading index them (`ColumnDisk`). The columns of an unordered disk (`UnorderedDisk.columns`)
are written and read just as its entities are (`ColumnDisk.externalizeAs_columns`, `ColumnDisk.internalizeOn_columns`),
so a disk of columns that starts empty is always that of an unordered disk (`ColumnDisk.Reachable.columns`): its columns
are aligned, no index goes beyond the end of a column, and what was read is in range of the vertex sets that it was read
against (`ColumnDisk.aligned_of_reachable`).
-/

namespace GraphDisk

/-- A disk whose store holds columns. -/
structure ColumnDisk where
  config : Config
  held : Guid → Option Columns
  files : FileSystem

namespace ColumnDisk

/-- The disk without its store. -/
def bare (c : ColumnDisk) : UnorderedDisk := ⟨c.config, .empty, c.files⟩

/-- Makes columns resident. -/
def install (c : ColumnDisk) (g : Guid) (columns : Columns) : ColumnDisk :=
  { c with held := fun k => if g = k then some columns else c.held k }

/-- The resident vertex set of a guid. No guid is looked up like the empty one. -/
def dependency (c : ColumnDisk) (g : Option Guid) : Except Error ColumnDependency :=
  match c.held (g.getD .unset) with
  | some (.vertexSet vs) => .ok ⟨g.getD .unset, vs⟩
  | some columns => .error (.dependencyKind (g.getD .unset) .vertexSet columns.kind)
  | none => .error (.dependencyNotFound (g.getD .unset))

/-! ## Writing -/

/-- What is to be published for resident columns, and the number of their rows. -/
def publication (c : ColumnDisk) (stagingName : String) (g : Guid) (first second : Option Guid) :
    Except Halt (Publication × Schema × Nat) := do
  let name ← Halt.lift g.entryName
  match c.held g with
  | none => throw (.error (.entityNotFound g))
  | some columns =>
    let block ← columns.indexedRows (c.dependency first) (c.dependency second)
    let table ← Halt.lift (Table.ofRows block.schema block.rows)
    return ({ root := c.config.root, name, stagingName, table, marker := c.config.marker },
      block.schema, block.rows.length)

/-- Writes the shard directory of resident columns. -/
def externalizeAs (refused : Refusals) (stagingName : String) (c : ColumnDisk) (g : Guid) (first second : Option Guid) :
    ColumnDisk × Except Halt Summary :=
  match c.publication stagingName g first second with
  | .error halt => (c, .error halt)
  | .ok (p, schema, rows) =>
    match p.run refused c.files with
    | (after, .error fault) => ({ c with files := after }, .error (.error (.io fault)))
    | (after, .ok ()) =>
      ({ c with files := after }, .ok { guid := g, kind := schema.kind, rows, shards := 1, path := p.target })

/-! ## Reading -/

/-- The rows of a data file, where columns are indexed. -/
def readFile (m : Machine) (c : ColumnDisk) (s : Schema) (p : Path) : Except Halt (List s.Row) := do
  let shard ← Halt.lift (m.openShard c.files p)
  match shard.indexedRows c.config.codec (m.order p) s (m.noThreads p) m.room with
  | .ok rows => return rows
  | .error (.error e) => throw (.error (e.inFile p))
  | .error halt => throw halt

/-- The rows of all data files of a shard directory, file by file, and the number of files. -/
def readRows (m : Machine) (c : ColumnDisk) (s : Schema) (l : Listing) : Except Halt (List s.Row × Nat) := do
  let blocks ← l.paths.mapM (c.readFile m s)
  return (blocks.flatten, l.names.length)

/-- The first vertex set that a kind needs. -/
def firstOf (c : ColumnDisk) (kind : Kind) (first : Option Guid) : Except Halt (Option ColumnDependency) :=
  match kind with
  | .edgeBundle | .doubleAttribute | .stringAttribute | .pairAttribute => some <$> Halt.lift (c.dependency first)
  | _ => return none

/-- The second vertex set that a kind needs. -/
def secondOf (c : ColumnDisk) (kind : Kind) (second : Option Guid) : Except Halt (Option ColumnDependency) :=
  match kind with
  | .edgeBundle => some <$> Halt.lift (c.dependency second)
  | _ => return none

/-- The vertex sets that a kind needs, looked up one after the other. -/
def lookups (c : ColumnDisk) (kind : Kind) (first second : Option Guid) :
    Except Halt (Option ColumnDependency × Option ColumnDependency) := do
  return (← c.firstOf kind first, ← c.secondOf kind second)

/-- The columns that the data files of a listing make, with the numbers of rows and of files. The kinds that have no
schema have been refused before, and the vertex sets that a kind needs have been looked up. -/
def made (m : Machine) (c : ColumnDisk) (g : Guid) (listing : Listing) :
    Kind → Option ColumnDependency → Option ColumnDependency → Except Halt (Columns × Nat × Nat)
  | .vertexSet, _, _ => do
    let (rows, shards) ← c.readRows m .vertex listing
    return (.vertexSet (← Halt.lift (VertexColumns.ofRows c.config.duplicates g rows)), rows.length, shards)
  | .edgeBundle, some first, some second => do
    let (rows, shards) ← c.readRows m .edge listing
    let (src, dst, ids) ← Halt.lift (edgesOf first second rows)
    return (← Halt.lift (Columns.ofEdges src dst ids), rows.length, shards)
  | .doubleAttribute, some target, _ => do
    let (rows, shards) ← c.readRows m .doubleAttribute listing
    let (values, defined) ← spread Double.zero target rows
    return (← Halt.lift (Columns.ofDoubles values defined), rows.length, shards)
  | .stringAttribute, some target, _ => do
    let (rows, shards) ← c.readRows m .stringAttribute listing
    let (values, defined) ← spread "" target rows
    return (← Halt.lift (Columns.ofStrings values defined), rows.length, shards)
  | .pairAttribute, some target, _ => do
    let (rows, shards) ← c.readRows m .pairAttribute listing
    let (values, defined) ← spread (Double.zero, Double.zero) target rows
    return (← Halt.lift (Columns.ofPairs (values.map Prod.fst) (values.map Prod.snd) defined), rows.length, shards)
  | _, _, _ => .error .catchAll

/-- The columns that a shard directory holds, with a summary. -/
def rebuild (m : Machine) (c : ColumnDisk) (g : Guid) (kind : Kind) (first second : Option Guid) :
    Except Halt (Columns × Summary) := do
  let directory ← Halt.lift (c.bare.shardDirectory g)
  if kind.schema? = none then throw (.error (.unsupportedKind kind.name))
  let (vs₁, vs₂) ← c.lookups kind first second
  let listing ← Halt.lift (c.bare.listing m directory)
  let (columns, rows, shards) ← c.made m g listing kind vs₁ vs₂
  return (columns, { guid := g, kind, rows, shards, path := directory })

/-- Builds columns from a shard directory and makes them resident. -/
def internalizeOn (m : Machine) (c : ColumnDisk) (g : Guid) (kind : Kind)
    (first second : Option Guid) : ColumnDisk × Except Halt Summary :=
  match c.rebuild m g kind first second with
  | .error halt => (c, .error halt)
  | .ok (columns, summary) => (c.install g columns, .ok summary)

end ColumnDisk

/-! ## The columns of a disk -/

/-- The columns of the entities of a disk. -/
def UnorderedDisk.columns (d : UnorderedDisk) : ColumnDisk :=
  ⟨d.config, fun g => (d.store.get? g).map Entity.columns, d.files⟩

namespace ColumnDisk

variable {d : UnorderedDisk} {g : Guid} {kind : Kind} {first second : Option Guid} {m : Machine}

theorem install_columns (d : UnorderedDisk) (g : Guid) (x : Entity) :
    d.columns.install g x.columns = { d with store := d.store.install g x }.columns := by
  unfold install UnorderedDisk.columns
  simp only [ColumnDisk.mk.injEq, true_and, and_true]
  funext k
  rw [Store.get?_install]
  split <;> rfl

theorem dependency_columns (d : UnorderedDisk) (first : Option Guid) :
    d.columns.dependency first = (d.store.dependency first).map Dependency.columns := by
  unfold dependency UnorderedDisk.columns Store.dependency Store.vertexSet
  cases hx : d.store.get? (first.getD .unset) with
  | none => simp only [Option.map_none, hx]; rfl
  | some x => cases x <;> simp only [Option.map_some, Entity.columns, hx] <;> rfl

theorem publication_columns (d : UnorderedDisk) (stagingName : String) (g : Guid) (first second : Option Guid) :
    d.columns.publication stagingName g first second = Halt.lift (d.publication stagingName g first second) := by
  unfold publication UnorderedDisk.publication
  rw [Halt.lift_bind]
  refine congrArg _ (funext fun name => ?_)
  cases hx : d.store.get? g with
  | none =>
    simp only [UnorderedDisk.columns, hx, Option.map_none]
    rfl
  | some x =>
    rw [dependency_columns, dependency_columns]
    simp only [UnorderedDisk.columns, hx, Option.map_some, Entity.indexedRows_columns, Halt.lift_bind]
    rfl

/-- **Writing columns** is writing the entity. -/
theorem externalizeAs_columns (refused : Refusals) (stagingName : String) (d : UnorderedDisk) (g : Guid)
    (first second : Option Guid) : d.columns.externalizeAs refused stagingName g first second =
      ((d.externalizeAs refused stagingName g first second).1.columns,
        Halt.lift (d.externalizeAs refused stagingName g first second).2) := by
  unfold externalizeAs UnorderedDisk.externalizeAs
  rw [publication_columns]
  cases d.publication stagingName g first second with
  | error e => rfl
  | ok x =>
    obtain ⟨p, schema, rows⟩ := x
    simp only [Halt.lift_ok, UnorderedDisk.columns]
    rcases p.run refused d.files with ⟨after, fault | ⟨⟩⟩
    · rfl
    · rfl

theorem readFile_columns (m : Machine) (d : UnorderedDisk) (s : Schema) (p : Path) :
    d.columns.readFile m s p = Halt.lift (d.readFile m s p) := by
  unfold readFile UnorderedDisk.readFile
  rw [Halt.lift_bind]
  cases ho : m.openShard d.files p with
  | error e => simp only [UnorderedDisk.columns, ho]; rfl
  | ok shard =>
    simp only [UnorderedDisk.columns, ho, Halt.lift_ok, bind, Except.bind]
    rw [Shard.indexedRows_eq (FileSystem.inBounds_of_openShard (Machine.openShard_eq_ok.mp ho).2)]
    cases shard.readRowsBy d.config.codec (m.order p) s (m.noThreads p) m.room <;> rfl

theorem readRows_columns (m : Machine) (d : UnorderedDisk) (s : Schema) (l : Listing) :
    d.columns.readRows m s l = Halt.lift (d.readRows m s l) := by
  have hread : d.columns.readFile m s = fun p => Halt.lift (d.readFile m s p) :=
    funext fun _ => readFile_columns m d s _
  unfold readRows UnorderedDisk.readRows
  rw [Halt.lift_bind, Halt.lift_mapM, hread]
  rfl

/-! ### The columns that rows make -/

section Making

variable {s : Schema} {build : List s.Row → Except Error Entity} {e : Error}

theorem lookup_columns (d : UnorderedDisk) (first : Option Guid) : some <$> Halt.lift (d.columns.dependency first) =
    (Halt.lift (d.store.dependency first)).map fun target => some target.columns := by
  rw [dependency_columns]
  cases d.store.dependency first <;> rfl

/-- A vertex set that is missing is missed. -/
theorem lookups_of_error (h : d.builder g first second s = .error e) :
    d.columns.lookups s.kind first second = .error (.error e) := by
  have hone : ∀ {α : Type} {f : Dependency → α}, (do return f (← d.store.dependency first)) = Except.error e →
      (do return ((← some <$> Halt.lift (d.columns.dependency first)), (none : Option ColumnDependency))) =
        Except.error (Halt.error e) := by
    intro α f hf
    rw [lookup_columns]
    rcases bind_eq_error.mp hf with hf | ⟨target, -, hf⟩
    · rw [hf]
      rfl
    · cases hf
  cases s with
  | vertex => cases h
  | edge =>
    simp only [lookups, firstOf, secondOf, Schema.kind, lookup_columns]
    rcases bind_eq_error.mp h with h | ⟨src, hsrc, h⟩
    · rw [h]
      rfl
    · rcases bind_eq_error.mp h with h | ⟨dst, -, h⟩
      · rw [hsrc, h]
        rfl
      · cases h
  | doubleAttribute => exact hone h
  | stringAttribute => exact hone h
  | pairAttribute => exact hone h

/-- **The columns that rows make** are those of the entity that they make, once the vertex sets have been looked up. -/
theorem made_of_builder (h : d.builder g first second s = .ok build) : ∃ vs₁ vs₂,
    d.columns.lookups s.kind first second = .ok (vs₁, vs₂) ∧
    ∀ l, d.columns.made m g l s.kind vs₁ vs₂ = Halt.lift (d.readRows m s l) >>= fun x =>
      (Halt.lift (build x.1)).map fun entity => (entity.columns, x.1.length, x.2) := by
  have hattribute : ∀ {α : Type} {zero : α} {target : Dependency} {rows : List (AttributeRow α)}
      {entity : Attribute α → Entity} {make : Array α × Array Bool → Except Error Columns} {n : Nat × Nat},
      (∀ a, make a.columns = .ok (entity a).columns) →
      (do let columns ← spread zero target.columns rows; return (← Halt.lift (make columns), n)) =
        (Halt.lift ((Attribute.ofRows zero target rows).map entity)).map fun x => (x.columns, n) := by
    intro α zero target rows entity make n hmake
    rw [Attribute.spread_columns]
    cases Attribute.ofRows zero target rows with
    | error e => rfl
    | ok a =>
      simp only [Except.map, bind, Except.bind, Halt.lift_ok, hmake]
      rfl
  cases s with
  | vertex =>
    cases h
    refine ⟨none, none, rfl, fun l => ?_⟩
    simp only [made, Schema.kind, readRows_columns, VertexSet.ofRows_columns]
    refine congrArg _ (funext fun x => ?_)
    rw [show d.columns.config = d.config from rfl]
    cases VertexSet.ofRows d.config.duplicates g x.1 <;> rfl
  | edge =>
    obtain ⟨src, hsrc, h⟩ := bind_eq_ok.mp h
    obtain ⟨dst, hdst, h⟩ := bind_eq_ok.mp h
    cases h
    refine ⟨some src.columns, some dst.columns, ?_, fun l => ?_⟩
    · simp only [lookups, firstOf, secondOf, Schema.kind, lookup_columns, hsrc, hdst]
      rfl
    · simp only [made, Schema.kind, readRows_columns, EdgeBundle.edgesOf_columns]
      refine congrArg _ (funext fun x => ?_)
      cases EdgeBundle.ofRows src dst x.1 with
      | error e => rfl
      | ok eb =>
        simp only [Except.map, bind, Except.bind, Halt.lift_ok, EdgeBundle.columns, Columns.ofEdges_columns]
        rfl
  | doubleAttribute =>
    obtain ⟨target, htarget, h⟩ := bind_eq_ok.mp h
    cases h
    refine ⟨some target.columns, none, ?_, fun l => ?_⟩
    · simp only [lookups, firstOf, secondOf, Schema.kind, lookup_columns, htarget]
      rfl
    · simp only [made, Schema.kind, readRows_columns]
      exact congrArg _ (funext fun x => hattribute Columns.ofDoubles_columns)
  | stringAttribute =>
    obtain ⟨target, htarget, h⟩ := bind_eq_ok.mp h
    cases h
    refine ⟨some target.columns, none, ?_, fun l => ?_⟩
    · simp only [lookups, firstOf, secondOf, Schema.kind, lookup_columns, htarget]
      rfl
    · simp only [made, Schema.kind, readRows_columns]
      exact congrArg _ (funext fun x => hattribute Columns.ofStrings_columns)
  | pairAttribute =>
    obtain ⟨target, htarget, h⟩ := bind_eq_ok.mp h
    cases h
    refine ⟨some target.columns, none, ?_, fun l => ?_⟩
    · simp only [lookups, firstOf, secondOf, Schema.kind, lookup_columns, htarget]
      rfl
    · simp only [made, Schema.kind, readRows_columns]
      exact congrArg _ (funext fun x => hattribute Columns.ofPairs_columns)

end Making

/-- **Reading columns** is reading the entity. No vertex set is missing where one is needed, and no constructor refuses
the columns that it is given. -/
theorem rebuild_columns (m : Machine) (d : UnorderedDisk) (g : Guid) (kind : Kind)
    (first second : Option Guid) : d.columns.rebuild m g kind first second =
      (Halt.lift (d.rebuild m g kind first second)).map fun x => (x.1.columns, x.2) := by
  have hok : ∀ {α β : Type} (a : α) (k : α → Except Halt β), Except.ok a >>= k = k a := fun _ _ => rfl
  cases hd : d.shardDirectory g with
  | error e =>
    have hcolumns : d.columns.bare.shardDirectory g = .error e := hd
    unfold rebuild UnorderedDisk.rebuild
    rw [hcolumns, hd]
    rfl
  | ok directory =>
    have hcolumns : d.columns.bare.shardDirectory g = .ok directory := hd
    by_cases hkind : kind = .scalar
    · subst hkind
      unfold rebuild UnorderedDisk.rebuild
      rw [hcolumns, hd]
      rfl
    · obtain ⟨s, rfl⟩ : ∃ s : Schema, s.kind = kind := by
        cases kind with
        | scalar => exact absurd rfl hkind
        | vertexSet => exact ⟨.vertex, rfl⟩
        | edgeBundle => exact ⟨.edge, rfl⟩
        | doubleAttribute => exact ⟨.doubleAttribute, rfl⟩
        | stringAttribute => exact ⟨.stringAttribute, rfl⟩
        | pairAttribute => exact ⟨.pairAttribute, rfl⟩
      have hschema : s.kind.schema? ≠ none := by cases s <;> simp [Schema.kind, Kind.schema?]
      unfold rebuild
      rw [UnorderedDisk.rebuild_eq hd, hcolumns, Halt.lift_ok, hok, if_neg hschema]
      cases hb : d.builder g first second s with
      | error e =>
        rw [lookups_of_error hb]
        rfl
      | ok build =>
        obtain ⟨vs₁, vs₂, hlookups, hmade⟩ := made_of_builder (m := m) hb
        unfold UnorderedDisk.rowsOf
        rw [hlookups, hok]
        simp only [hmade]
        rw [show UnorderedDisk.listing m d.columns.bare directory = d.listing m directory from rfl]
        cases d.listing m directory with
        | error e => rfl
        | ok l =>
          cases hr : d.readRows m s l with
          | error e => simp [bind, Except.bind, hr, Except.map]
          | ok x => simp only [bind, Except.bind, hr, Halt.lift_ok]; cases build x.1 <;> rfl

/-- **Reading columns** leaves the columns that reading the entity leaves. -/
theorem internalizeOn_columns (m : Machine) (d : UnorderedDisk) (g : Guid) (kind : Kind)
    (first second : Option Guid) : d.columns.internalizeOn m g kind first second =
      ((d.internalizeOn m g kind first second).1.columns, Halt.lift (d.internalizeOn m g kind first second).2) := by
  unfold internalizeOn UnorderedDisk.internalizeOn
  rw [rebuild_columns]
  cases d.rebuild m g kind first second with
  | error e => rfl
  | ok x => exact Prod.ext (install_columns d g x.1) rfl

/-! ## Runs -/

/-- **A disk of columns that started empty.** Columns that a constructor gives are made resident, written and read, and
the files may be changed from outside in between. -/
inductive Reachable : ColumnDisk → Prop
  | start (config : Config) (files : FileSystem) : Reachable ⟨config, fun _ => none, files⟩
  | install {c : ColumnDisk} {columns : Columns} (g : Guid) :
    Reachable c → columns.Constructed → Reachable (c.install g columns)
  | externalize {c : ColumnDisk} (refused : Refusals) (stagingName : String) (g : Guid) (first second : Option Guid) :
    Reachable c → Reachable (c.externalizeAs refused stagingName g first second).1
  | internalize {c : ColumnDisk} (m : Machine) (g : Guid) (kind : Kind) (first second : Option Guid) :
    Reachable c → Reachable (c.internalizeOn m g kind first second).1
  | outside {c : ColumnDisk} (files : FileSystem) : Reachable c → Reachable { c with files }

/-- **The columns that are reached are those of an unordered disk.** -/
theorem Reachable.columns {c : ColumnDisk} (h : c.Reachable) : ∃ d : UnorderedDisk, c = d.columns := by
  induction h with
  | start config files => exact ⟨⟨config, .empty, files⟩, rfl⟩
  | install g _ hconstructed ih =>
    obtain ⟨d, rfl⟩ := ih
    obtain ⟨x, rfl⟩ := hconstructed.entity
    exact ⟨_, install_columns d g x⟩
  | externalize refused stagingName g first second _ ih =>
    obtain ⟨d, rfl⟩ := ih
    exact ⟨_, congrArg Prod.fst (externalizeAs_columns refused stagingName d g first second)⟩
  | internalize m g kind first second _ ih =>
    obtain ⟨d, rfl⟩ := ih
    exact ⟨_, congrArg Prod.fst (internalizeOn_columns m d g kind first second)⟩
  | outside files _ ih =>
    obtain ⟨d, rfl⟩ := ih
    exact ⟨{ d with files }, rfl⟩

/-! ## Indices in range -/

/-- What is made of rows of a schema is of its kind. -/
theorem kind_of_build {s : Schema} {build : List s.Row → Except Error Entity} {rows : List s.Row} {x : Entity}
    (hb : d.builder g first second s = .ok build) (h : build rows = .ok x) : x.kind = s.kind := by
  cases s with
  | vertex =>
    cases hb
    obtain ⟨vs, -, rfl⟩ := exists_of_map_eq_ok h
    rfl
  | edge =>
    obtain ⟨src, -, hb⟩ := bind_eq_ok.mp hb
    obtain ⟨dst, -, hb⟩ := bind_eq_ok.mp hb
    cases hb
    obtain ⟨eb, -, rfl⟩ := exists_of_map_eq_ok h
    rfl
  | _ =>
    obtain ⟨target, -, hb⟩ := bind_eq_ok.mp hb
    cases hb
    obtain ⟨a, -, rfl⟩ := exists_of_map_eq_ok h
    rfl

/-- **What is made of rows is in range** of the vertex sets that were looked up. -/
theorem inRange_of_build {s : Schema} {build : List s.Row → Except Error Entity} {rows : List s.Row} {x : Entity}
    (hb : d.builder g first second s = .ok build) (h : build rows = .ok x) :
    x.columns.InRange (d.columns.dependency first) (d.columns.dependency second) := by
  rw [dependency_columns, dependency_columns]
  have hattribute : ∀ {α : Type} {zero : α} {target : Dependency} {entity : Attribute α → Entity}
      {rows : List (AttributeRow α)},
      (Attribute.ofRows zero target rows).map entity = .ok x →
      ∃ a, entity a = x ∧ a.values.size = target.columns.vertices.size := by
    intro α zero target entity rows ha
    obtain ⟨a, ha, hx⟩ := exists_of_map_eq_ok ha
    exact ⟨a, hx, (Attribute.size_values a).trans (Attribute.size_of_ofRows ha)⟩
  cases s with
  | vertex =>
    cases hb
    obtain ⟨vs, -, rfl⟩ := exists_of_map_eq_ok h
    trivial
  | edge =>
    obtain ⟨src, hsrc, hb⟩ := bind_eq_ok.mp hb
    obtain ⟨dst, hdst, hb⟩ := bind_eq_ok.mp hb
    cases hb
    obtain ⟨eb, heb, rfl⟩ := exists_of_map_eq_ok h
    rw [hsrc, hdst]
    exact ⟨src.columns, dst.columns, rfl, rfl, EdgeBundle.lt_of_ofRows heb⟩
  | doubleAttribute =>
    obtain ⟨target, htarget, hb⟩ := bind_eq_ok.mp hb
    cases hb
    obtain ⟨a, rfl, hsize⟩ := hattribute h
    rw [htarget]
    exact ⟨target.columns, rfl, hsize⟩
  | stringAttribute =>
    obtain ⟨target, htarget, hb⟩ := bind_eq_ok.mp hb
    cases hb
    obtain ⟨a, rfl, hsize⟩ := hattribute h
    rw [htarget]
    exact ⟨target.columns, rfl, hsize⟩
  | pairAttribute =>
    obtain ⟨target, htarget, hb⟩ := bind_eq_ok.mp hb
    cases hb
    obtain ⟨a, rfl, hsize⟩ := hattribute h
    rw [htarget]
    exact ⟨target.columns, rfl, (Array.size_map ..).trans hsize⟩

/-- What reading makes resident is of the kind that was asked for, and in range. -/
theorem installed_of_internalize {after : ColumnDisk} {summary : Summary}
    (h : d.columns.internalizeOn m g kind first second = (after, .ok summary)) : ∃ columns,
      after.held g = some columns ∧ columns.kind = kind ∧
      columns.InRange (d.columns.dependency first) (d.columns.dependency second) := by
  unfold internalizeOn at h
  rw [rebuild_columns] at h
  cases hr : d.rebuild m g kind first second with
  | error e =>
    rw [hr] at h
    cases h
  | ok y =>
    obtain ⟨x, summary'⟩ := y
    rw [hr] at h
    cases h
    obtain ⟨s, build, rows, shards, rfl, -, hb, -, hx, -⟩ := UnorderedDisk.rebuild_ok hr
    refine ⟨x.columns, if_pos rfl, ?_, inRange_of_build hb hx⟩
    rw [Entity.kind_columns]
    exact kind_of_build hb hx

/-- **No constructor refuses what was read.** -/
theorem internalize_ne_invalidEntity (fault : EntityFault) :
    (d.internalizeOn m g kind first second).2 ≠ .error (.invalidEntity fault) := by
  intro h
  obtain ⟨-, hr⟩ := UnorderedDisk.internalize_eq_error h
  cases hrequest : d.store.requestFault? g kind first second with
  | some e =>
    rw [UnorderedDisk.rebuild_of_requestFault hrequest] at hr
    cases hr
    cases Store.requestFault?_ofReadRequest hrequest
  | none =>
    rcases UnorderedDisk.rebuild_error_of_no_requestFault hrequest hr with (hcode | hhalt) | hrows
    · simp [Error.code] at hcode
    · cases hhalt
    · cases hrows

/-- **Columns stay aligned, and no index goes beyond the end of a column.** Whatever was made resident, written and read
since the disk was empty, its columns are those of an unordered disk. Writing and reading them, looking at a slot and
listing the rows of a file give what the unordered disk gives, no constructor refuses the columns that were read, and
these are in range of the vertex sets that they were read against. -/
theorem aligned_of_reachable {c : ColumnDisk} (h : c.Reachable) : ∃ d : UnorderedDisk, c = d.columns ∧
    (∀ g columns, c.held g = some columns → columns.Aligned ∧
      ∃ x, d.store.get? g = some x ∧ columns = x.columns ∧ ∀ index, columns.slot? index = .ok (x.slot? index)) ∧
    (∀ refused stagingName g first second,
      Halt.Orderly (c.externalizeAs refused stagingName g first second).2 ∧
      c.externalizeAs refused stagingName g first second =
        ((d.externalizeAs refused stagingName g first second).1.columns,
          Halt.lift (d.externalizeAs refused stagingName g first second).2)) ∧
    (∀ m g kind first second,
      Halt.Orderly (c.internalizeOn m g kind first second).2 ∧
      c.internalizeOn m g kind first second =
        ((d.internalizeOn m g kind first second).1.columns,
          Halt.lift (d.internalizeOn m g kind first second).2) ∧
      (∀ fault, (c.internalizeOn m g kind first second).2 ≠ .error (.error (.invalidEntity fault))) ∧
      ∀ after summary, c.internalizeOn m g kind first second = (after, .ok summary) → ∃ columns,
        after.held g = some columns ∧ columns.kind = kind ∧
          columns.InRange (c.dependency first) (c.dependency second)) ∧
    ∀ p shard, c.files.openShard p = .ok shard →
      (∀ codec order s noThreads room, shard.indexedRows codec order s noThreads room =
        Halt.lift (shard.readRowsBy codec order s noThreads room)) ∧
      ∀ limit render, shard.indexedFormatRows limit render = Halt.lift (shard.formatRows limit render) := by
  obtain ⟨d, rfl⟩ := h.columns
  refine ⟨d, rfl, fun g columns hg => ?_, fun refused name g first second => ?_, fun m g kind first second => ?_,
    fun p shard ho => ?_⟩
  · obtain ⟨x, hx, rfl⟩ := Option.map_eq_some_iff.mp hg
    exact ⟨x.aligned_columns, x, hx, rfl, x.slot?_columns⟩
  · rw [externalizeAs_columns]
    exact ⟨Halt.orderly_lift _, rfl⟩
  · refine ⟨?_, internalizeOn_columns m d g kind first second, fun fault hf => ?_, fun after summary ho => ?_⟩
    · rw [internalizeOn_columns]
      exact Halt.orderly_lift _
    · rw [internalizeOn_columns] at hf
      cases ho : (d.internalizeOn m g kind first second).2 with
      | ok summary =>
        rw [ho] at hf
        cases hf
      | error e =>
        rw [ho] at hf
        cases hf
        exact internalize_ne_invalidEntity fault ho
    · exact installed_of_internalize ho
  · have hbounds := FileSystem.inBounds_of_openShard ho
    exact ⟨Shard.indexedRows_eq hbounds, Shard.indexedFormatRows_eq hbounds⟩

/-- A disk with the columns of a vertex set that repeats an id, and with those of an attribute. -/
def repeatedColumns : ColumnDisk :=
  (ColumnDisk.install ⟨{}, fun _ => none, .empty⟩ ⟨"v"⟩ (.vertexSet (.ofIds #[7, 8, 7]))).install ⟨"a"⟩
    (.doubleAttribute #[⟨1⟩, ⟨2⟩, ⟨0⟩] #[true, true, false])

theorem aligned_repeatedColumns : repeatedColumns.Reachable ∧
    (∀ columns, repeatedColumns.held ⟨"a"⟩ = some columns → columns.Aligned) ∧
    Halt.Orderly (repeatedColumns.externalizeAs .none ".staging" ⟨"a"⟩ (some ⟨"v"⟩) none).2 ∧
    Halt.Orderly (repeatedColumns.internalizeOn {} ⟨"a"⟩ .doubleAttribute (some ⟨"v"⟩) none).2 := by
  have hdoubles : Columns.ofDoubles #[⟨1⟩, ⟨2⟩, ⟨0⟩] #[true, true, false] =
      .ok (.doubleAttribute #[⟨1⟩, ⟨2⟩, ⟨0⟩] #[true, true, false]) := if_pos rfl
  have hreachable : repeatedColumns.Reachable :=
    .install _ (.install _ (.start {} .empty) (.vertexSet _)) (.doubles hdoubles)
  obtain ⟨d, -, hheld, hwrite, hread, -⟩ := aligned_of_reachable hreachable
  exact ⟨hreachable, fun columns hc => (hheld _ columns hc).1, (hwrite _ _ _ _ _).1, (hread _ _ _ _ _).1⟩

end ColumnDisk

end GraphDisk
