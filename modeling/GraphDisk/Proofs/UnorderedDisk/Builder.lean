import GraphDisk.Proofs.UnorderedDisk.Holds

/-!
# What reading makes of rows

Reading looks the vertex sets up that the kind needs, then reads the rows, and then makes an entity of them. Everything
that depends on the kind happens before and after the rows are read (`Schema.builder`), and the shard directory is seen
only through its rows (`UnorderedDisk.rebuild_eq`).
-/

namespace GraphDisk

/-- **What is made of rows of a schema**, once the vertex sets that it needs have been looked up. -/
def Schema.builder (policy : DuplicatePolicy) (g : Guid) (store : Store) (first second : Option Guid) :
    (s : Schema) → Except Error (List s.Row → Except Error Entity)
  | .vertex => .ok fun rows => (VertexSet.ofRows policy g rows).map .vertexSet
  | .edge => do
    let src ← store.dependency first
    let dst ← store.dependency second
    return fun rows => (EdgeBundle.ofRows src dst rows).map .edgeBundle
  | .doubleAttribute => do
    let target ← store.dependency first
    return fun rows => (Attribute.ofRows Double.zero target rows).map .doubleAttribute
  | .stringAttribute => do
    let target ← store.dependency first
    return fun rows => (Attribute.ofRows "" target rows).map .stringAttribute
  | .pairAttribute => do
    let target ← store.dependency first
    return fun rows => (Attribute.ofRows (Double.zero, Double.zero) target rows).map .pairAttribute

namespace UnorderedDisk

variable {d : UnorderedDisk} {g : Guid} {kind : Kind} {first second : Option Guid} {m : Machine}
  {directory : Path} {x : Entity} {summary : Summary} {block : RowBlock}

/-- What is made of the rows of a shard directory of a disk. -/
def builder (d : UnorderedDisk) (g : Guid) (first second : Option Guid) (s : Schema) :
    Except Error (List s.Row → Except Error Entity) :=
  s.builder d.config.duplicates g d.store first second

/-- The entity that is made of some rows. -/
def entityOf (d : UnorderedDisk) (g : Guid) (first second : Option Guid) (s : Schema) (rows : List s.Row) :
    Except Error Entity :=
  d.builder g first second s >>= fun build => build rows

/-- The rows of a shard directory, and the number of its data files. -/
def rowsOf (m : Machine) (d : UnorderedDisk) (s : Schema) (directory : Path) :
    Except Error (List s.Row × Nat) :=
  d.listing m directory >>= d.readRows m s

/-- **Reading looks vertex sets up, reads rows and makes an entity of them**, one after the other. -/
theorem rebuild_eq (hd : d.shardDirectory g = .ok directory) (s : Schema) :
    d.rebuild m g s.kind first second = d.builder g first second s >>= fun build =>
      d.rowsOf m s directory >>= fun x =>
        (build x.1).map fun entity => (entity, ⟨g, s.kind, x.1.length, x.2, directory⟩) := by
  have hok : ∀ {α β : Type} (a : α) (k : α → Except Error β), Except.ok a >>= k = k a := fun _ _ => rfl
  have hmap : ∀ {α β γ : Type} (x : Except Error α) (f : α → β) (k : β → γ),
      (x.map f).map k = x >>= fun a => .ok (k (f a)) := by
    intro α β γ x f k
    cases x <;> rfl
  unfold rebuild builder rowsOf
  rw [hd]
  cases s with
  | vertex =>
    simp only [Schema.kind, Schema.builder, bind_assoc, hok, hmap]
    rfl
  | edge =>
    simp only [Schema.kind, Schema.builder, bind_assoc, hok, pure_bind, hmap]
    rfl
  | stringAttribute =>
    simp only [Schema.kind, Schema.builder, bind_assoc, hok, pure_bind, hmap]
    rfl
  | doubleAttribute =>
    simp only [Schema.kind, Schema.builder, bind_assoc, hok, pure_bind, hmap]
    rfl
  | pairAttribute =>
    simp only [Schema.kind, Schema.builder, bind_assoc, hok, pure_bind, hmap]
    rfl

/-- What has been read when reading has succeeded. -/
theorem rebuild_ok (h : d.rebuild m g kind first second = .ok (x, summary)) :
    ∃ s build rows shards, s.kind = kind ∧ d.shardDirectory g = .ok (d.place g) ∧
      d.builder g first second s = .ok build ∧
      d.rowsOf m s (d.place g) = .ok (rows, shards) ∧ build rows = .ok x ∧
      summary = ⟨g, kind, rows.length, shards, d.place g⟩ := by
  have hd : d.shardDirectory g = .ok (d.place g) := by
    obtain ⟨directory, hd, -⟩ := bind_eq_ok.mp h
    obtain ⟨name, hname, hdirectory⟩ := bind_eq_ok.mp hd
    cases hdirectory
    rw [hd, (Guid.entryName_ok hname).1]
    rfl
  obtain ⟨s, rfl⟩ : ∃ s : Schema, s.kind = kind := by
    cases kind with
    | scalar =>
      unfold rebuild at h
      rw [hd] at h
      cases h
    | vertexSet => exact ⟨.vertex, rfl⟩
    | edgeBundle => exact ⟨.edge, rfl⟩
    | doubleAttribute => exact ⟨.doubleAttribute, rfl⟩
    | stringAttribute => exact ⟨.stringAttribute, rfl⟩
    | pairAttribute => exact ⟨.pairAttribute, rfl⟩
  rw [rebuild_eq hd] at h
  obtain ⟨build, hbuild, h⟩ := bind_eq_ok.mp h
  obtain ⟨⟨rows, shards⟩, hrows, h⟩ := bind_eq_ok.mp h
  refine ⟨s, build, rows, shards, rfl, hd, hbuild, hrows, ?_⟩
  cases hx : build rows with
  | error e =>
    simp only [hx] at h
    cases h
  | ok y =>
    simp only [hx] at h
    cases h
    exact ⟨rfl, rfl⟩

/-- What was written is read, whatever is made of it. -/
theorem Holds.rebuild_eq (h : d.Holds g block) (he : m.Faithful)
    (hm : d.config.marker ≠ partFileName 0) :
    d.rebuild m g block.schema.kind first second = d.builder g first second block.schema >>= fun build =>
      if d.TooLong g then .error (.io .nameTooLong)
      else (build block.rows).map fun x => (x, ⟨g, block.schema.kind, block.rows.length, 1, d.place g⟩) := by
  rw [UnorderedDisk.rebuild_eq h.shardDirectory_eq]
  refine congrArg _ (funext fun build => ?_)
  unfold rowsOf
  rw [h.read he hm]
  by_cases hlong : d.TooLong g
  · rw [if_pos hlong, if_pos hlong]
    rfl
  · rw [if_neg hlong, if_neg hlong]
    rfl

end UnorderedDisk

end GraphDisk
