import GraphDisk.Proofs.Outcome
import GraphDisk.Proofs.Publication.Restored
import GraphDisk.Proofs.Publication.StagingName
import GraphDisk.UnorderedDisk

/-!
# What a disk publishes

A publication of a disk takes its root and marker from the configuration and its name from the guid. If the
configuration has been checked and the staging name is free (`UnorderedDisk.FreeName`), its names are those of different
entries (`wellNamed_of_publication`), and nothing is at the staging path or aside once the root has been made
(`absent_of_publication`).
-/

namespace GraphDisk

/-- A marker that has been checked is the name of an entry. -/
theorem Config.isEntryName_marker {c : Config} (h : c.fault? = none) : IsEntryName c.marker := by
  unfold Config.fault? at h
  split at h
  · cases h
  · split at h
    · rename_i hplain
      simp only [Config.isPlainName, Bool.not_eq_true', Bool.or_eq_false_iff, beq_eq_false_iff_ne, List.any_eq_false]
        at hplain
      refine { ne_empty := hplain.1.1.1, ne_dot := hplain.1.1.2, ne_dots := hplain.1.2, no_slash := fun hm => ?_ }
      simpa using hplain.2 _ hm
    · cases h

/-- The text of a guid that can name an entry. -/
theorem Guid.entryName_ok {g : Guid} {name : String} (h : g.entryName = .ok name) :
    name = g.text ∧ IsEntryName g.text := by
  unfold Guid.entryName Guid.fault? at h
  split at h
  · cases h
  · rename_i hfault
    cases h
    split at hfault
    · cases hfault
    · rename_i hreserved
      split at hfault
      · cases hfault
      · rename_i hseparator
        push Not at hreserved
        refine ⟨rfl,
          { ne_empty := hreserved.1, ne_dot := hreserved.2.1, ne_dots := hreserved.2.2, no_slash := fun hm => ?_ }⟩
        exact hseparator (List.any_eq_true.mpr ⟨_, hm, by simp [Guid.isSeparator]⟩)

namespace UnorderedDisk

variable {d : UnorderedDisk} {g : Guid} {first second : Option Guid} {name : String} {p : Publication} {schema : Schema}
  {rows : Nat}

/-- A disk without files. -/
def new (config : Config) (store : Store) : UnorderedDisk := { config, store, files := .empty }

/-- The files once the root is there, as far as it could be made. -/
def ready (d : UnorderedDisk) : FileSystem := (d.files.makeDirectories d.config.root).1

/-- **What is published for an entity**: the table of its rows. -/
theorem publication_ok (h : d.publication name g first second = .ok (p, schema, rows)) :
    IsEntryName g.text ∧ ∃ e block table, d.store.get? g = some e ∧ e.externalRows d.store first second = .ok block ∧
      Table.ofRows block.schema block.rows = .ok table ∧ schema = block.schema ∧ rows = block.rows.length ∧
      p = ⟨d.config.root, g.text, name, table, d.config.marker⟩ := by
  unfold publication at h
  cases hg : g.entryName with
  | error e => rw [hg] at h; cases h
  | ok text =>
    obtain ⟨rfl, hname⟩ := Guid.entryName_ok hg
    rw [hg] at h
    cases he : d.store.get? g with
    | none => simp only [bind, Except.bind, he] at h; cases h
    | some e =>
      cases hb : e.externalRows d.store first second with
      | error e => simp only [bind, Except.bind, he, hb] at h; cases h
      | ok block =>
        cases ht : Table.ofRows block.schema block.rows with
        | error e => simp only [bind, Except.bind, he, hb, ht] at h; cases h
        | ok table =>
          simp only [bind, Except.bind, he, hb, ht] at h
          cases h
          exact ⟨hname, e, block, table, rfl, hb, ht, rfl, rfl, rfl⟩

theorem entryName_of_publication (h : d.publication name g first second = .ok (p, schema, rows)) :
    g.entryName = .ok g.text := by
  obtain ⟨text, hg, -⟩ := bind_eq_ok.mp h
  rw [hg, (Guid.entryName_ok hg).1]

/-! ## Free staging names -/

/-- **A name under which the shard directory of a guid can be assembled.** It is the name of another entry, and once the
root is there, neither it nor the name aside that goes with it is taken. -/
structure FreeName (d : UnorderedDisk) (g : Guid) (name : String) : Prop where
  entry : IsEntryName name
  other : name ≠ g.text
  other_aside : asideName name ≠ g.text
  free : ∀ entries, d.ready.list (d.config.root.entry ".") = .ok entries → name ∉ entries.map Prod.fst
  free_aside : ∀ entries, d.ready.list (d.config.root.entry ".") = .ok entries →
    asideName name ∉ entries.map Prod.fst

/-- There is always such a name. -/
theorem freeName_freshStagingName (d : UnorderedDisk) (g : Guid) : d.FreeName g (d.freshStagingName g) := by
  unfold freshStagingName
  cases hl : (d.files.makeDirectories d.config.root).1.list (d.config.root.entry ".") with
  | error e =>
    obtain ⟨n, hn, hs, ha⟩ := freshStagingName_spec [] g.text
    simp only [hn]
    refine ⟨isEntryName_stagingName n, ?_, ?_, ?_, ?_⟩
    · exact fun e => hs (by simp [e])
    · exact fun e => ha (by simp [e])
    · exact fun entries he => absurd (hl.symm.trans he) nofun
    · exact fun entries he => absurd (hl.symm.trans he) nofun
  | ok entries =>
    obtain ⟨n, hn, hs, ha⟩ := freshStagingName_spec entries g.text
    simp only [hn]
    refine ⟨isEntryName_stagingName n, ?_, ?_, ?_, ?_⟩
    · exact fun e => hs (by simp [e])
    · exact fun e => ha (by simp [e])
    · intro entries' he
      cases hl.symm.trans he
      exact fun hm => hs (List.mem_cons_of_mem _ hm)
    · intro entries' he
      cases hl.symm.trans he
      exact fun hm => ha (List.mem_cons_of_mem _ hm)

theorem wellNamed_of_publication (hc : d.config.fault? = none) (hf : d.FreeName g name)
    (h : d.publication name g first second = .ok (p, schema, rows)) : p.WellNamed := by
  obtain ⟨hname, e, block, table, -, -, -, -, -, rfl⟩ := publication_ok h
  constructor
  · exact hname
  · exact hf.entry
  · exact hf.entry.aside
  · exact Config.isEntryName_marker hc
  · exact hf.other
  · exact hf.other_aside
  · exact (ne_asideName name).symm

/-- A name that no entry of the root has. -/
theorem absent_of_not_listed {fs : FileSystem} {q : Path} {x : String} (hx : IsEntryName x)
    (h : ∀ entries, fs.list (q.entry ".") = .ok entries → x ∉ entries.map Prod.fst) :
    Publication.Absent fs (q.entry x) := by
  intro l y hy
  obtain ⟨r, hr, ht⟩ := FileSystem.reaches_of_place hx hy
  have hlist := FileSystem.list_dot hr.opens (Path.check_dot hx.toIsSegment hr.check)
  apply h _ hlist
  cases hn : fs.node? (r ++ [x]) with
  | none => rw [FileSystem.targetAt_none hn] at ht; cases ht
  | some z =>
    rw [FileSystem.node?_entry (FileSystem.node?_of_directory hr.opens.directory)] at hn
    exact Directory.mem_of_find? hn

theorem absent_of_publication (hf : d.FreeName g name)
    (h : d.publication name g first second = .ok (p, schema, rows)) :
    Publication.Absent (p.ready d.files) p.staging ∧ Publication.Absent (p.ready d.files) p.aside := by
  obtain ⟨-, e, block, table, -, -, -, -, -, rfl⟩ := publication_ok h
  exact ⟨absent_of_not_listed hf.entry hf.free, absent_of_not_listed hf.entry.aside hf.free_aside⟩

end UnorderedDisk

end GraphDisk
