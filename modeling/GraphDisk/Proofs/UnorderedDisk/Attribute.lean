import GraphDisk.Proofs.Attribute
import GraphDisk.Proofs.UnorderedDisk.LongPath

/-!
# Attributes on disk

An attribute that was written against one vertex set and is read against another one has been moved from the one to the
other, or a slot is stranded and the first such slot is reported (`UnorderedDisk.internalize_attribute`). The three
sorts of attributes differ in their values only (`AttributeSort`).
-/

namespace GraphDisk

/-- The sorts of attributes. -/
inductive AttributeSort where
  | double
  | string
  | pair

namespace AttributeSort

/-- The values of the attributes of a sort. -/
def Value : AttributeSort → Type
  | double => Double
  | string => String
  | pair => Double × Double

/-- The value of a slot that is not defined. -/
def zero : (s : AttributeSort) → s.Value
  | double => Double.zero
  | string => ""
  | pair => (Double.zero, Double.zero)

def kind : AttributeSort → Kind
  | double => .doubleAttribute
  | string => .stringAttribute
  | pair => .pairAttribute

def entity : (s : AttributeSort) → Attribute s.Value → Entity
  | double, a => .doubleAttribute a
  | string, a => .stringAttribute a
  | pair, a => .pairAttribute a

def schema : AttributeSort → Schema
  | double => .doubleAttribute
  | string => .stringAttribute
  | pair => .pairAttribute

def rows : (s : AttributeSort) → List (AttributeRow s.Value) → List s.schema.Row
  | double, rows => rows
  | string, rows => rows
  | pair, rows => rows

/-- Rows of the schema of a sort. -/
def block (s : AttributeSort) (rows : List (AttributeRow s.Value)) : RowBlock := ⟨s.schema, s.rows rows⟩

/-- The attribute of some rows. -/
def ofRows : (s : AttributeSort) → Dependency → List s.schema.Row → Except Error Entity
  | double, d, rows => do return .doubleAttribute (← Attribute.ofRows Double.zero d rows)
  | string, d, rows => do return .stringAttribute (← Attribute.ofRows "" d rows)
  | pair, d, rows => do return .pairAttribute (← Attribute.ofRows (Double.zero, Double.zero) d rows)

variable {sort : AttributeSort} {a : Attribute sort.Value} {rows : List (AttributeRow sort.Value)} {block : RowBlock}
  {s : Store} {first second : Option Guid} {source target : Dependency}

theorem externalRows_entity (sort : AttributeSort) {a : Attribute sort.Value}
    (h : (sort.entity a).externalRows s first second = .ok block) :
    ∃ source rows, s.dependency first = .ok source ∧ a.externalRows source = .ok rows ∧ block = sort.block rows := by
  have hrows : ∀ {α : Type} {a : Attribute α} {f : List (AttributeRow α) → RowBlock},
      (do return f (← a.externalRows (← s.dependency first))) = Except.ok block →
      ∃ source rows, s.dependency first = .ok source ∧ a.externalRows source = .ok rows ∧ block = f rows := by
    intro α a f hf
    obtain ⟨source, hs, hf⟩ := bind_eq_ok.mp hf
    obtain ⟨rows, hrows, hf⟩ := bind_eq_ok (x := a.externalRows source).mp hf
    cases hf
    exact ⟨source, rows, hs, hrows, rfl⟩
  cases sort with
  | double => exact hrows h
  | string => exact hrows h
  | pair => exact hrows h

theorem length_rows (sort : AttributeSort) (rows : List (AttributeRow sort.Value)) :
    (sort.rows rows).length = rows.length := by
  cases sort <;> rfl

theorem ofRows_rows (sort : AttributeSort) (d : Dependency) (rows : List (AttributeRow sort.Value)) :
    sort.ofRows d (sort.rows rows) = (Attribute.ofRows sort.zero d rows).map sort.entity := by
  cases sort <;> rfl

end AttributeSort

namespace UnorderedDisk

variable {d disk after : UnorderedDisk} {refused : Refusals} {g : Guid} {first second first' second' : Option Guid}
  {summary : Summary} {m : Machine} {sort : AttributeSort} {a : Attribute sort.Value}
  {rows : List (AttributeRow sort.Value)} {source target : Dependency}

/-- Reading an attribute is reading its rows and moving them to their slots. -/
theorem rebuild_attribute {directory : Path} (hd : d.shardDirectory g = .ok directory)
    (ht : d.store.dependency first = .ok target) : d.rebuild m g sort.kind first second =
      d.listing m directory >>= fun l => d.readRows m sort.schema l >>= fun x =>
        sort.ofRows target x.1 >>= fun e => .ok (e, ⟨g, sort.kind, x.1.length, x.2, directory⟩) := by
  unfold rebuild
  rw [hd]
  cases sort with
  | double =>
    simp only [AttributeSort.kind, AttributeSort.ofRows, ht, bind_assoc, pure_bind]
    rfl
  | string =>
    simp only [AttributeSort.kind, AttributeSort.ofRows, ht, bind_assoc, pure_bind]
    rfl
  | pair =>
    simp only [AttributeSort.kind, AttributeSort.ofRows, ht, bind_assoc, pure_bind]
    rfl

/-- What was written is read, and its values are put into their slots. -/
theorem Holds.rebuild_attribute (h : d.Holds g (sort.block rows)) (he : m.Faithful)
    (hm : d.config.marker ≠ partFileName 0) (ht : d.store.dependency first = .ok target) :
    d.rebuild m g sort.kind first second =
      if d.TooLong g then .error (.io .nameTooLong)
      else (Attribute.ofRows sort.zero target rows).map fun b =>
        (sort.entity b, ⟨g, sort.kind, rows.length, 1, d.place g⟩) := by
  have hread := h.read_bind he hm fun x => sort.ofRows target x.1 >>= fun e =>
    .ok (e, Summary.mk g sort.kind x.1.length x.2 (d.place g))
  have hbuilt : (sort.ofRows target (sort.rows rows) >>= fun e =>
      .ok (e, Summary.mk g sort.kind (sort.rows rows).length 1 (d.place g))) =
      (Attribute.ofRows sort.zero target rows).map fun b =>
        (sort.entity b, Summary.mk g sort.kind rows.length 1 (d.place g)) := by
    rw [AttributeSort.ofRows_rows, AttributeSort.length_rows]
    cases Attribute.ofRows sort.zero target rows <;> rfl
  rw [UnorderedDisk.rebuild_attribute h.shardDirectory_eq ht, ← hbuilt]
  exact hread

/-- **An attribute that was written against one vertex set and is read against another one.** If the path of the data
file is not too long, reading fails with an invalid reference iff a slot is stranded, and names the first stranded
slot's id. Otherwise the attribute that is installed has been moved to the other vertex set; it is the same attribute if
the vertex sets are the same, no id occurs twice, and there is a slot for each vertex. -/
theorem internalize_attribute (second' : Option Guid) (hc : d.config.fault? = none)
    (hm : d.config.marker ≠ partFileName 0)
    (ha : d.store.get? g = some (sort.entity a)) (hs : d.store.dependency first = .ok source)
    (hf : d.FreeName g name) (hw : d.externalizeAs refused name g first second = (after, .ok summary))
    (hu : after.Untouched disk g) (he : m.Faithful)
    (ht : disk.store.dependency first' = .ok target) :
    (disk.TooLong g →
      disk.internalizeOn m g sort.kind first' second' = (disk, .error (.io .nameTooLong))) ∧
    (¬ disk.TooLong g →
      ((∃ vs id, (disk.internalizeOn m g sort.kind first' second').2 = .error (.invalidReference vs id)) ↔
        ∃ i id, a.Strands source.vertices target.vertices i id) ∧
      (∀ i id, a.Strands source.vertices target.vertices i id →
        (∀ k, k < i → ∀ id, ¬ a.Strands source.vertices target.vertices k id) →
        disk.internalizeOn m g sort.kind first' second' = (disk, .error (.invalidReference target.guid id))) ∧
      ((∀ i id, ¬ a.Strands source.vertices target.vertices i id) → ∃ b,
        disk.internalizeOn m g sort.kind first' second' =
          ({ disk with store := disk.store.install g (sort.entity b) },
            .ok ⟨g, sort.kind, a.entries.length, 1, disk.place g⟩) ∧
        a.MovedTo sort.zero source.vertices target.vertices b ∧
        (target.vertices = source.vertices → source.vertices.ids.toList.Nodup → a.size = source.vertices.size →
          b.size = a.size ∧ ∀ j, b.get? j = a.get? j))) := by
  obtain ⟨x, block, hx, hb, hafter, -, hholds⟩ := holds_of_externalize hc hf hw
  rw [ha] at hx
  cases hx
  obtain ⟨source', rows, hs', hrows, rfl⟩ := AttributeSort.externalRows_entity sort hb
  rw [hs] at hs'
  cases hs'
  have hmarker : disk.config.marker ≠ partFileName 0 := by rw [hu.config, hafter]; exact hm
  have hread : disk.rebuild m g sort.kind first' second' = _ :=
    (hholds.frame hu).rebuild_attribute he hmarker ht
  have hcount : rows.length = a.entries.length := by rw [(Attribute.externalRows_ok hrows).1, List.length_map]
  refine ⟨fun hlong => ?_, fun hlong => ?_⟩
  · rw [if_pos hlong] at hread
    exact internalize_of_rebuild_error hread
  rw [if_neg hlong] at hread
  have hstrand : ∀ i id, a.Strands source.vertices target.vertices i id →
      (∀ k, k < i → ∀ id, ¬ a.Strands source.vertices target.vertices k id) →
      disk.internalizeOn m g sort.kind first' second' = (disk, .error (.invalidReference target.guid id)) := by
    intro i id hi hfirst
    rw [Attribute.ofRows_of_strand hrows sort.zero hi hfirst] at hread
    exact internalize_of_rebuild_error hread
  have hmoved : (∀ i id, ¬ a.Strands source.vertices target.vertices i id) → ∃ b,
      disk.internalizeOn m g sort.kind first' second' =
        ({ disk with store := disk.store.install g (sort.entity b) },
          .ok ⟨g, sort.kind, a.entries.length, 1, disk.place g⟩) ∧
      a.MovedTo sort.zero source.vertices target.vertices b := by
    intro hno
    obtain ⟨b, hb, hmoved⟩ := Attribute.ofRows_of_no_strand hrows sort.zero hno
    rw [hb, hcount] at hread
    exact ⟨b, internalize_of_rebuild_ok hread, hmoved⟩
  refine ⟨invalidReference_iff_of_first ?_ ?_, hstrand, ?_⟩
  · rintro i ⟨id, hi⟩ hfirst
    exact ⟨_, id, congrArg Prod.snd (hstrand i id hi fun k hk id hs => hfirst k hk ⟨id, hs⟩)⟩
  · intro hno
    obtain ⟨b, hok, -⟩ := hmoved fun i id hs => hno i ⟨id, hs⟩
    exact ⟨_, congrArg Prod.snd hok⟩
  · intro hno
    obtain ⟨b, hok, hb⟩ := hmoved hno
    refine ⟨b, hok, hb, fun hsame hnodup hsize => ?_⟩
    rw [hsame] at hb
    exact ⟨hb.size.trans hsize.symm, hb.same hnodup hsize⟩

/-- A disk with a string attribute, and with two vertex sets that have the same ids in different orders. -/
def reorderedDisk : UnorderedDisk :=
  new {} (((Store.empty.install ⟨"v"⟩ (.vertexSet (.ofIds #[7, 8]))).install ⟨"w"⟩
    (.vertexSet (.ofIds #[8, 7]))).install ⟨"a"⟩
    (.stringAttribute ⟨#[⟨"x", true⟩, ⟨"y", true⟩]⟩))

theorem internalize_attribute_reordered : ∃ after b,
    reorderedDisk.externalize ⟨"a"⟩ (some ⟨"v"⟩) none =
      (after, .ok ⟨⟨"a"⟩, .stringAttribute, 2, 1, ⟨"data/unordered/a"⟩⟩) ∧
    after.internalize ⟨"a"⟩ .stringAttribute (some ⟨"w"⟩) none =
      ({ after with store := after.store.install ⟨"a"⟩ (.stringAttribute b) },
        .ok ⟨⟨"a"⟩, .stringAttribute, 2, 1, after.place ⟨"a"⟩⟩) ∧
    Attribute.MovedTo "" ⟨#[⟨"x", true⟩, ⟨"y", true⟩]⟩ (.ofIds #[7, 8]) (.ofIds #[8, 7]) b := by
  obtain ⟨after, hw⟩ := externalize_of_toOption
    (by decide +kernel : (reorderedDisk.externalize ⟨"a"⟩ (some ⟨"v"⟩) none).2.toOption =
      some ⟨⟨"a"⟩, .stringAttribute, 2, 1, ⟨"data/unordered/a"⟩⟩)
  obtain ⟨-, -, -, -, -, hafter, -⟩ := externalizeAs_ok hw
  have ha : reorderedDisk.store.get? ⟨"a"⟩ = some (AttributeSort.string.entity ⟨#[⟨"x", true⟩, ⟨"y", true⟩]⟩) := rfl
  have hs : reorderedDisk.store.dependency (some ⟨"v"⟩) = .ok ⟨⟨"v"⟩, .ofIds #[7, 8]⟩ := rfl
  have ht : after.store.dependency (some ⟨"w"⟩) = .ok ⟨⟨"w"⟩, .ofIds #[8, 7]⟩ := by
    have hstore : after.store = reorderedDisk.store := by rw [hafter]
    rw [hstore]
    rfl
  have hshort : ¬ after.TooLong ⟨"a"⟩ := by
    have hconfig : after.config = reorderedDisk.config := by rw [hafter]
    rw [TooLong, dataFile, place, hconfig]
    decide +kernel
  have hread := (internalize_attribute none rfl (by decide +kernel) ha hs (freeName_freshStagingName _ _) hw
    (Untouched.refl after ⟨"a"⟩) Machine.reliable_default.toFaithful ht).2 hshort
  have hids : ∀ id ∈ #[7, 8], id ∈ #[(8 : Int64), 7] := by
    intro id hid
    simpa [or_comm] using hid
  obtain ⟨b, hb, hmoved, -⟩ := hread.2.2 fun i id hs => hs.2.2 (hids id (VertexSet.mem_of_externalId? hs.2.1))
  exact ⟨after, b, hw, hb, hmoved⟩

/-- An attribute with one slot. -/
def oneSlot : Attribute String := ⟨#[⟨"x", true⟩]⟩

/-- A disk with an attribute under a long guid, and with its vertex set. -/
def longAttributeDisk : UnorderedDisk :=
  new { root := padded 3829 }
    ((Store.empty.install ⟨"v"⟩ (.vertexSet (.ofIds #[7]))).install longGuid (.stringAttribute oneSlot))

/-- **No slot is stranded, and yet the attribute cannot be read** in the place where it was written. -/
theorem attribute_with_long_guid : ∃ after summary,
    longAttributeDisk.externalize longGuid (some ⟨"v"⟩) none = (after, .ok summary) ∧
    (∀ i id, ¬ oneSlot.Strands (.ofIds #[7]) (.ofIds #[7]) i id) ∧
    after.internalize longGuid .stringAttribute (some ⟨"v"⟩) none = (after, .error (.io .nameTooLong)) := by
  have hne : longGuid ≠ ⟨"v"⟩ := fun h => lettered_ne (n := 255) (by decide) (congrArg Guid.text h)
  have ha : longAttributeDisk.store.get? longGuid = some (AttributeSort.string.entity oneSlot) := by
    rw [longAttributeDisk, new, Store.get?_install, if_pos rfl]
    rfl
  have hs : longAttributeDisk.store.dependency (some ⟨"v"⟩) = .ok ⟨⟨"v"⟩, .ofIds #[7]⟩ := by
    apply Store.dependency_of_get?
    rw [longAttributeDisk, new, Store.get?_install, if_neg hne, Store.get?_install, if_pos rfl]
  have hb : (AttributeSort.string.entity oneSlot).externalRows longAttributeDisk.store (some ⟨"v"⟩) none =
      .ok (AttributeSort.string.block [⟨7, "x"⟩]) := by
    simp only [AttributeSort.entity, Entity.externalRows, hs]
    rfl
  have hroot : longAttributeDisk.config.root = padded 3829 := rfl
  have hempty : longAttributeDisk.files = .empty := rfl
  have hchecked : longAttributeDisk.config.fault? = none := rfl
  obtain ⟨after, summary, hw, hafter, hholds, hlong⟩ := externalize_longGuid hroot hempty hchecked rfl ha hb
  have hconfig : after.config = longAttributeDisk.config := by rw [hafter]
  have hstore : after.store = longAttributeDisk.store := by rw [hafter]
  have hread : after.rebuild {} longGuid .stringAttribute (some ⟨"v"⟩) none = _ :=
    hholds.rebuild_attribute Machine.reliable_default.toFaithful
    (by rw [hconfig]; decide +kernel) (by rw [hstore, hs])
  rw [if_pos hlong] at hread
  refine ⟨after, summary, hw, fun i id hstrand => ?_, internalize_of_rebuild_error hread⟩
  exact hstrand.2.2 (VertexSet.mem_of_externalId? hstrand.2.1)

end UnorderedDisk

end GraphDisk
