import GraphDisk.Proofs.Publication.Footprint
import GraphDisk.Proofs.UnorderedDisk.ReadAlike

/-!
# Calls on different guids

The shard directories of different guids are different entries of the root. So calls on different guids do not notice
each other (`UnorderedDisk.operations_commute`): whichever comes first, each has the same outcome, and both leave the
same disk. Beside the store, a call that writes is about three entries of the root, and a call that reads about one.
That is not all if the file system itself connects guids: by a link at the place of one guid, by a path to the root that
leads through the place of another, or by a missing root that changes what paths mean when it is made. Then one call
does notice the other (`operations_interfere`).
-/

namespace GraphDisk

open FileSystem (Firm ReadsAlike)

/-- Where a target is, or would be made. -/
def Target.location : Target → Location
  | found location _ => location
  | free directory name => directory ++ [name]

/-- **A path is a direct child of another one**: it has one step more, which is a name, and what is placed by it is
placed in the directory to which the other path leads, at the entry of that name. -/
structure Path.IsChild (p q : Path) (name : String) : Prop where
  named : IsEntryName name
  absolute : p.isAbsolute = q.isAbsolute
  steps : p.steps = q.steps ++ [name]
  placed : ∀ (fs : FileSystem) (t : Target), fs.place p = .ok t → ∃ r, fs.Opens q r ∧ t.location = r ++ [name]

theorem Path.isChild_entry {q : Path} {name : String} (h : IsEntryName name) : (q.entry name).IsChild q name := by
  refine ⟨h, Path.isAbsolute_entry h.toIsSegment, Path.steps_entry h.toIsSegment, fun fs t ht => ?_⟩
  obtain ⟨r, hr, rfl⟩ := FileSystem.reaches_of_place h ht
  refine ⟨r, hr.opens, ?_⟩
  unfold FileSystem.targetAt
  split <;> rfl

theorem Guid.isEntryName_of_valid {g : Guid} (h : g.fault? = none) : IsEntryName g.text := by
  have hname : g.entryName = .ok g.text := by
    unfold Guid.entryName
    rw [h]
  exact (Guid.entryName_ok hname).2

namespace UnorderedDisk

variable {d disk : UnorderedDisk} {g : Guid} {first second : Option Guid} {refused : Refusals} {name : String}

/-! ## Shard directories -/

theorem shardDirectory_isChild (h : g.fault? = none) :
    ∃ p, d.shardDirectory g = .ok p ∧ p.IsChild d.config.root g.text :=
  ⟨d.place g, shardDirectory_of_valid h, Path.isChild_entry (Guid.isEntryName_of_valid h)⟩

theorem shardDirectory_injective {g' : Guid} (h : g.fault? = none) (h' : g'.fault? = none)
    (he : d.shardDirectory g = d.shardDirectory g') : g = g' := by
  obtain ⟨p, hp, hchild⟩ := shardDirectory_isChild (d := d) h
  obtain ⟨p', hp', hchild'⟩ := shardDirectory_isChild (d := d) h'
  rw [hp, hp'] at he
  cases he
  have hsteps := hchild.steps.symm.trans hchild'.steps
  cases g with
  | mk text =>
    cases g' with
    | mk text' => simpa using hsteps

/-! ## Operations -/

/-- **A call on a disk**, with what it is left to: which file-system calls are refused and under which name the shard
directory is assembled, or the machine on which it is read. -/
inductive Operation where
  | externalize (refused : Refusals) (stagingName : String) (g : Guid) (first second : Option Guid)
  | internalize (m : Machine) (g : Guid) (kind : Kind) (first second : Option Guid)

namespace Operation

/-- The guid that is written or read. -/
def guid : Operation → Guid
  | externalize _ _ g _ _ => g
  | internalize _ g _ _ _ => g

/-- The guids of the vertex sets that are needed. -/
def dependencies : Operation → List Guid
  | externalize _ _ _ first second => first.toList ++ second.toList
  | internalize _ _ _ first second => first.toList ++ second.toList

/-- Whether the call writes a shard directory; otherwise it reads one and makes an entity resident. -/
def Writes : Operation → Prop
  | externalize .. => True
  | internalize .. => False

/-- The entries of the root that the call is about. -/
def entryNames : Operation → List String
  | externalize _ stagingName g _ _ => [stagingName, asideName stagingName, g.text]
  | internalize _ g _ _ _ => [g.text]

/-- Carries out the call. -/
def run (d : UnorderedDisk) : Operation → UnorderedDisk × Except Error Summary
  | externalize refused stagingName g first second => d.externalizeAs refused stagingName g first second
  | internalize m g kind first second => d.internalizeOn m g kind first second

/-- What the call is left to is as it should be: the staging name is a name, and neither it nor the name aside is taken
in the root; a directory is listed with each of its entries once. -/
def Fair (d : UnorderedDisk) : Operation → Prop
  | externalize _ stagingName _ _ _ => IsEntryName stagingName ∧ ∀ r, d.ready.Opens d.config.root r →
      d.ready.node? (r ++ [stagingName]) = none ∧ d.ready.node? (r ++ [asideName stagingName]) = none
  | internalize m _ _ _ _ => ∀ entries, (m.enumerate entries).Perm entries

/-- **The file system does not connect a call with a guid that is written**: the root can be made or nothing is made of
it, its path does not lead through the place of the guid, and no link is at the place that the call is about. If the
call reads, the root is there already, or after it has been made nothing is at the place, and the guid is short enough
for a name. -/
structure Unaffected (d : UnorderedDisk) (written : Guid) (o : Operation) : Prop where
  settled : Publication.RootSettled d.config.root d.files
  beside : ∀ r, d.ready.Opens d.config.root r → (d.ready.erase (r ++ [written.text])).Opens d.config.root r
  plain : ∀ r, d.ready.Opens d.config.root r → ∀ target, d.ready.shape? (r ++ [o.guid.text]) ≠ some (.link target)
  unseen : ¬ o.Writes → d.ready = d.files ∨ ∀ r, d.ready.Opens d.config.root r →
    d.ready.node? (r ++ [o.guid.text]) = none ∧ o.guid.text.utf8ByteSize ≤ maxNameSize

end Operation

/-- **Two disks that hold the same**: the same configuration, the same entities under the same guids, and the same
files. -/
structure Same (d disk : UnorderedDisk) : Prop where
  config : disk.config = d.config
  store : ∀ g, disk.store.get? g = d.store.get? g
  files : d.files.Same disk.files

theorem Same.refl (d : UnorderedDisk) : d.Same d := ⟨rfl, fun _ => rfl, .refl _⟩

theorem Same.symm (h : d.Same disk) : disk.Same d := ⟨h.config.symm, fun g => (h.store g).symm, h.files.symm⟩

/-- **It does not matter which of two calls comes first**: each has the outcome that it has without the other, and both
orders leave the same disk. -/
structure Commute (d : UnorderedDisk) (a b : Operation) : Prop where
  first : (a.run (b.run d).1).2 = (a.run d).2
  second : (b.run (a.run d).1).2 = (b.run d).2
  same : (b.run (a.run d).1).1.Same (a.run (b.run d).1).1

theorem Commute.symm {a b : Operation} (h : d.Commute a b) : d.Commute b a := ⟨h.second, h.first, h.same.symm⟩

/-! ## What an operation depends on -/

/-- What writing does to the files, once it is known what is to be published, and what it reports. -/
def written (refused : Refusals) (g : Guid) (request : Except Error (Publication × Schema × Nat)) (fs : FileSystem) :
    FileSystem × Except Error Summary :=
  match request with
  | .error e => (fs, .error e)
  | .ok (p, schema, rows) =>
    ((p.run refused fs).1, match (p.run refused fs).2 with
      | .error fault => .error (.io fault)
      | .ok () => .ok ⟨g, schema.kind, rows, 1, p.target⟩)

theorem externalizeAs_eq (d : UnorderedDisk) : d.externalizeAs refused name g first second =
    ({ d with files := (written refused g (d.publication name g first second) d.files).1 },
      (written refused g (d.publication name g first second) d.files).2) := by
  unfold externalizeAs
  rcases d.publication name g first second with e | ⟨p, schema, rows⟩
  · rfl
  · simp only [written]
    rcases p.run refused d.files with ⟨after, fault | ⟨⟩⟩ <;> rfl

/-- What is to be published depends on the entity and on the vertex sets that it needs. -/
theorem publication_congr (hc : disk.config = d.config) (hg : disk.store.get? g = d.store.get? g)
    (h₁ : disk.store.dependency first = d.store.dependency first)
    (h₂ : disk.store.dependency second = d.store.dependency second) :
    disk.publication name g first second = d.publication name g first second := by
  unfold publication
  simp only [hc, hg, Entity.externalRows_congr h₁ h₂]

/-- The vertex sets of other guids are not replaced. -/
theorem dependencies_install {store : Store} {x : Entity} (hg : g.fault? = none)
    (hm : g ∉ first.toList ++ second.toList) :
    (store.install g x).dependency first = store.dependency first ∧
      (store.install g x).dependency second = store.dependency second := by
  have hother : ∀ k : Option Guid, k ≠ some g → k.getD .unset ≠ g := by
    rintro (_ | k) hk rfl
    · exact (Guid.isEntryName_of_valid hg).ne_empty rfl
    · exact hk rfl
  simp only [List.mem_append, Option.mem_toList, not_or] at hm
  exact ⟨Store.dependency_install (hother first hm.1), Store.dependency_install (hother second hm.2)⟩

/-- What an operation publishes has the names that the operation is about. -/
theorem wellNamed_of_names {p : Publication} {schema : Schema} {rows : Nat} (hc : d.config.fault? = none)
    (hs : IsEntryName name) (hn : [name, asideName name, g.text].Nodup)
    (h : d.publication name g first second = .ok (p, schema, rows)) :
    p.WellNamed ∧ p.root = d.config.root ∧ p.name = g.text ∧ p.entryNames = [name, asideName name, g.text] := by
  obtain ⟨hname, e, block, table, -, -, -, -, -, rfl⟩ := publication_ok h
  simp only [List.nodup_cons, List.mem_cons, List.not_mem_nil, or_false, not_or] at hn
  refine ⟨?_, rfl, rfl, rfl⟩
  constructor
  · exact hname
  · exact hs
  · exact hs.aside
  · exact Config.isEntryName_marker hc
  · exact hn.1.2
  · exact hn.2.1
  · exact Ne.symm hn.1.1

/-! ## Two calls that write -/

section Writes

variable {refusedA refusedB : Refusals} {nameA nameB : String} {gA gB : Guid}
  {firstA secondA firstB secondB : Option Guid}

variable (hc : d.config.fault? = none)
  (hnames : ([nameA, asideName nameA, gA.text] ++ [nameB, asideName nameB, gB.text]).Nodup)
  (hfairA : (Operation.externalize refusedA nameA gA firstA secondA).Fair d)
  (hfairB : (Operation.externalize refusedB nameB gB firstB secondB).Fair d)
  (hA : (Operation.externalize refusedA nameA gA firstA secondA).Unaffected d gB)
  (hB : (Operation.externalize refusedB nameB gB firstB secondB).Unaffected d gA)
include hfairA hfairB hA hB

/-- The path to the root does not lead through any of the entries that two calls are about: the staging names are not
taken, and each guid is beside the path. -/
theorem firm_of_unaffected {r : Location} (ho : d.ready.Opens d.config.root r) :
    d.ready.Firm d.config.root r ([nameA, asideName nameA, gA.text] ++ [nameB, asideName nameB, gB.text]) := by
  obtain ⟨hsA, haA⟩ := hfairA.2 r ho
  obtain ⟨hsB, haB⟩ := hfairB.2 r ho
  refine Firm.of_both_erased ho.directory (by simp) (by simp) (fun k hk hkA hkB => ?_) (hB.beside r ho) (hA.beside r ho)
  simp only [List.cons_append, List.nil_append, List.mem_cons, List.not_mem_nil, or_false, hkA, hkB, false_or] at hk
  rcases hk with rfl | rfl | rfl | rfl
  · exact hsA
  · exact haA
  · exact hsB
  · exact haB

include hc hnames

/-- What two calls publish can be published in either order. -/
theorem publications_commute {pA pB : Publication} {schemaA schemaB : Schema} {rowsA rowsB : Nat}
    (hpA : d.publication nameA gA firstA secondA = .ok (pA, schemaA, rowsA))
    (hpB : d.publication nameB gB firstB secondB = .ok (pB, schemaB, rowsB)) :
    (pB.run refusedB (pA.run refusedA d.files).1).2 = (pB.run refusedB d.files).2 ∧
      (pA.run refusedA (pB.run refusedB d.files).1).2 = (pA.run refusedA d.files).2 ∧
      FileSystem.Same (pB.run refusedB (pA.run refusedA d.files).1).1
        (pA.run refusedA (pB.run refusedB d.files).1).1 := by
  obtain ⟨hnA, hnB, hdisjoint⟩ := List.nodup_append.mp hnames
  obtain ⟨hwA, hrootA, hnameA, hentriesA⟩ := wellNamed_of_names hc hfairA.1 hnA hpA
  obtain ⟨hwB, hrootB, hnameB, hentriesB⟩ := wellNamed_of_names hc hfairB.1 hnB hpB
  have hready : pA.ready d.files = d.ready := by rw [Publication.ready, ready, hrootA]
  have hopens : ∀ r, Publication.RootMade pA.root d.files r → d.ready.Opens d.config.root r := by
    intro r hr
    rw [hrootA] at hr
    exact hr.2
  refine Publication.run_commute hwA hwB (hrootB.trans hrootA.symm) ?_ ?_ ?_ ?_ ?_
  · rw [hentriesA, hentriesB]
    exact fun x hx hm => hdisjoint x hx x hm rfl
  · rw [hrootA]
    exact hA.settled
  · intro r hr
    rw [hready, hrootA, hentriesA, hentriesB]
    exact firm_of_unaffected hfairA hfairB hA hB (hopens r hr)
  · intro r hr
    rw [hready, hnameA]
    exact hA.plain r (hopens r hr)
  · intro r hr
    rw [hready, hnameB]
    exact hB.plain r (hopens r hr)

theorem commute_writes :
    d.Commute (.externalize refusedA nameA gA firstA secondA) (.externalize refusedB nameB gB firstB secondB) := by
  -- the store stays as it is, so what is to be published does not change, and it is about files only
  have key : ∀ (requestA requestB : Except Error (Publication × Schema × Nat)),
      d.publication nameA gA firstA secondA = requestA → d.publication nameB gB firstB secondB = requestB →
      (written refusedA gA requestA (written refusedB gB requestB d.files).1).2 =
        (written refusedA gA requestA d.files).2 ∧
      (written refusedB gB requestB (written refusedA gA requestA d.files).1).2 =
        (written refusedB gB requestB d.files).2 ∧
      FileSystem.Same (written refusedB gB requestB (written refusedA gA requestA d.files).1).1
        (written refusedA gA requestA (written refusedB gB requestB d.files).1).1 := by
    rintro (eA | ⟨pA, schemaA, rowsA⟩) (eB | ⟨pB, schemaB, rowsB⟩) hpA hpB
    · exact ⟨rfl, rfl, .refl _⟩
    · exact ⟨rfl, rfl, .refl _⟩
    · exact ⟨rfl, rfl, .refl _⟩
    · obtain ⟨hfirst, hsecond, hsame⟩ := publications_commute hc hnames hfairA hfairB hA hB hpA hpB
      simp only [written, hfirst, hsecond]
      exact ⟨trivial, trivial, hsame⟩
  obtain ⟨hfirst, hsecond, hsame⟩ := key _ _ rfl rfl
  constructor
  · simp only [Operation.run, externalizeAs_eq]
    exact hfirst
  · simp only [Operation.run, externalizeAs_eq]
    exact hsecond
  · simp only [Operation.run, externalizeAs_eq]
    exact ⟨rfl, fun _ => rfl, hsame⟩

end Writes

/-! ## A call that writes and one that reads -/

section Reads

variable {gA gB : Guid} {firstA secondA firstB secondB : Option Guid} {m mA mB : Machine}
  {kind kindA kindB : Kind}

/-- A shard directory reads alike once the root has been made. -/
theorem readsAlike_ready (hv : gB.fault? = none) {r : Location} (ho : d.ready.Opens d.config.root r)
    (hB : (Operation.internalize m gB kind firstB secondB).Unaffected d gA) :
    ReadsAlike (d.place gB) d.files d.ready := by
  rcases hB.unseen id with hsame | hfree
  · rw [hsame]
    exact .refl _ _
  by_cases hthere : ∃ r, d.files.Opens d.config.root r
  · obtain ⟨r, hr⟩ := hthere
    rw [ready, FileSystem.makeDirectories_of_opens hr]
    exact .refl _ _
  · push Not at hthere
    obtain ⟨hnone, hshort⟩ := hfree r ho
    have hmore := FileSystem.MoreDirectories.of_makeDirectories d.files d.config.root
    exact FileSystem.readsAlike_of_missing hmore hthere ho (Guid.isEntryName_of_valid hv) hshort hnone

/-- **A shard directory reads alike after another one has been written.** -/
theorem readsAlike_written (hc : d.config.fault? = none) (hf : d.files.WellFormed) (hv : gB.fault? = none)
    (hnames : ([name, asideName name, gA.text] ++ [gB.text]).Nodup)
    (hfair : (Operation.externalize refused name gA firstA secondA).Fair d)
    (hB : (Operation.internalize m gB kind firstB secondB).Unaffected d gA) :
    ReadsAlike (d.place gB) d.files (written refused gA (d.publication name gA firstA secondA) d.files).1 := by
  obtain ⟨hnA, -, hdisjoint⟩ := List.nodup_append.mp hnames
  rcases hp : d.publication name gA firstA secondA with e | ⟨p, schema, rows⟩
  · exact .refl _ _
  obtain ⟨hw, hroot, -, hentries⟩ := wellNamed_of_names hc hfair.1 hnA hp
  have hready : p.ready d.files = d.ready := by rw [Publication.ready, ready, hroot]
  show ReadsAlike (d.place gB) d.files (p.run refused d.files).1
  cases hrefused : refused (.makeDirectories p.root) with
  | some fault =>
    rw [Publication.run_of_refused hrefused]
    exact .refl _ _
  | none =>
  by_cases hmade : ∃ r, Publication.RootMade p.root d.files r
  · obtain ⟨r, hr⟩ := hmade
    rw [Publication.run_ready hrefused hr, hready]
    have ho : d.ready.Opens d.config.root r := by
      rw [hroot] at hr
      exact hr.2
    have hfirm : d.ready.Firm p.root r p.entryNames := by
      rw [hroot, hentries]
      refine Firm.of_erased (a := gA.text) ho.directory (by simp) (fun k hk hne => ?_) (hB.beside r ho)
      simp only [List.mem_cons, List.not_mem_nil, or_false, hne] at hk
      rcases hk with rfl | rfl
      · exact (hfair.2 r ho).1
      · exact (hfair.2 r ho).2
    have hwithin : FileSystem.Within r p.entryNames d.ready (p.run refused d.ready).1 := Publication.run_within hw hfirm
    have hopens : (p.run refused d.ready).1.Opens d.config.root r := by
      rw [← hroot]
      exact (hfirm.within hwithin).opens
    refine (readsAlike_ready hv ho hB).trans
      (FileSystem.readsAlike_of_entry ho hopens (Guid.isEntryName_of_valid hv) (hwithin.entry ?_) (hB.plain r ho) ?_)
    · rw [hentries]
      exact fun hm => hdisjoint _ hm _ (List.mem_singleton.mpr rfl) rfl
    · intro entries hentry
      rcases hB.unseen id with hsame | hfree
      · rw [hsame] at hentry
        exact hf _ _ hentry
      · have hnone : d.ready.node? (r ++ [gB.text]) = none := (hfree r ho).1
        rw [hnone] at hentry
        cases hentry
  · push Not at hmade
    rw [Publication.run_of_no_root hw (by rw [hroot]; exact hB.settled) hmade]
    exact .refl _ _

theorem commute_write_read (hc : d.config.fault? = none) (hf : d.files.WellFormed) (hv : gB.fault? = none)
    (hnames : ([name, asideName name, gA.text] ++ [gB.text]).Nodup)
    (hfair : (Operation.externalize refused name gA firstA secondA).Fair d)
    (he : ∀ entries, (m.enumerate entries).Perm entries) (hd : gB ∉ firstA.toList ++ secondA.toList)
    (hB : (Operation.internalize m gB kind firstB secondB).Unaffected d gA) :
    d.Commute (.externalize refused name gA firstA secondA) (.internalize m gB kind firstB secondB) := by
  have halike := readsAlike_written hc hf hv hnames hfair hB
  have hne : gB ≠ gA := by
    rintro rfl
    simp at hnames
  generalize hF : (written refused gA (d.publication name gA firstA secondA) d.files).1 = fs at halike
  have hrebuild : ({ d with files := fs } : UnorderedDisk).rebuild m gB kind firstB secondB =
      d.rebuild m gB kind firstB secondB := rebuild_congr rfl hv halike he rfl rfl
  have hpublication : ∀ x,
      ({ d with store := d.store.install gB x } : UnorderedDisk).publication name gA firstA secondA =
        d.publication name gA firstA secondA := fun x => by
    obtain ⟨h₁, h₂⟩ := dependencies_install hv hd
    exact publication_congr rfl (by rw [Store.get?_install, if_neg hne]) h₁ h₂
  cases hr : d.rebuild m gB kind firstB secondB with
  | error e =>
    rw [hr] at hrebuild
    constructor
    · simp only [Operation.run, internalize_of_rebuild_error hr]
    · simp only [Operation.run, externalizeAs_eq, hF, internalize_of_rebuild_error hr,
        internalize_of_rebuild_error hrebuild]
    · simp only [Operation.run, externalizeAs_eq, hF, internalize_of_rebuild_error hr,
        internalize_of_rebuild_error hrebuild]
      exact .refl _
  | ok made =>
    rw [hr] at hrebuild
    constructor
    · simp only [Operation.run, externalizeAs_eq, internalize_of_rebuild_ok hr, hpublication]
    · simp only [Operation.run, externalizeAs_eq, hF, internalize_of_rebuild_ok hr, internalize_of_rebuild_ok hrebuild]
    · simp only [Operation.run, externalizeAs_eq, hF, internalize_of_rebuild_ok hr, internalize_of_rebuild_ok hrebuild,
        hpublication]
      exact .refl _

/-! ## Two calls that read -/

theorem commute_reads (hvA : gA.fault? = none) (hvB : gB.fault? = none) (hne : gA ≠ gB)
    (hdA : gB ∉ firstA.toList ++ secondA.toList) (hdB : gA ∉ firstB.toList ++ secondB.toList)
    (heA : ∀ entries, (mA.enumerate entries).Perm entries) (heB : ∀ entries, (mB.enumerate entries).Perm entries) :
    d.Commute (.internalize mA gA kindA firstA secondA) (.internalize mB gB kindB firstB secondB) := by
  have hA : ∀ x, ({ d with store := d.store.install gB x } : UnorderedDisk).rebuild mA gA kindA firstA secondA =
      d.rebuild mA gA kindA firstA secondA := fun x => by
    obtain ⟨h₁, h₂⟩ := dependencies_install hvB hdA
    exact rebuild_congr rfl hvA (.refl _ _) heA h₁ h₂
  have hB : ∀ x, ({ d with store := d.store.install gA x } : UnorderedDisk).rebuild mB gB kindB firstB secondB =
      d.rebuild mB gB kindB firstB secondB := fun x => by
    obtain ⟨h₁, h₂⟩ := dependencies_install hvA hdB
    exact rebuild_congr rfl hvB (.refl _ _) heB h₁ h₂
  cases hrA : d.rebuild mA gA kindA firstA secondA with
  | error eA =>
    cases hrB : d.rebuild mB gB kindB firstB secondB with
    | error eB =>
      constructor <;> simp only [Operation.run, internalize_of_rebuild_error hrA, internalize_of_rebuild_error hrB]
      exact .refl _
    | ok madeB =>
      have hA := (hA madeB.1).trans hrA
      constructor <;> simp only [Operation.run, internalize_of_rebuild_error hrA, internalize_of_rebuild_error hA,
        internalize_of_rebuild_ok hrB]
      exact .refl _
  | ok madeA =>
    have hB := hB madeA.1
    cases hrB : d.rebuild mB gB kindB firstB secondB with
    | error eB =>
      rw [hrB] at hB
      constructor <;> simp only [Operation.run, internalize_of_rebuild_ok hrA, internalize_of_rebuild_error hrB,
        internalize_of_rebuild_error hB]
      exact .refl _
    | ok madeB =>
      rw [hrB] at hB
      have hA := (hA madeB.1).trans hrA
      constructor <;> simp only [Operation.run, internalize_of_rebuild_ok hrA, internalize_of_rebuild_ok hrB,
        internalize_of_rebuild_ok hA, internalize_of_rebuild_ok hB]
      refine ⟨rfl, fun k => ?_, .refl _⟩
      simp only [Store.get?_install]
      split
      · rename_i hk
        rw [if_neg fun h => hne (hk.trans h.symm)]
      · rfl

end Reads

/-! ## All calls -/

/-- **Two calls on different guids** as they can be made: the configuration has been checked, the file system is as file
systems are, the guids are valid, all names in the root that the calls are about are different, and no call makes a
vertex set resident that the other one needs. -/
structure Operation.Apart (d : UnorderedDisk) (a b : Operation) : Prop where
  config : d.config.fault? = none
  files : d.files.WellFormed
  valid : a.guid.fault? = none ∧ b.guid.fault? = none
  names : (a.entryNames ++ b.entryNames).Nodup
  fair : a.Fair d ∧ b.Fair d
  dependencies : (¬ a.Writes → a.guid ∉ b.dependencies) ∧ (¬ b.Writes → b.guid ∉ a.dependencies)

/-- **Different guids do not interfere.** Their shard directories are different direct children of the root. Of two
calls on different guids it does not matter which comes first, if the file system does not connect the one that writes
with the other one. A call is left to the same things in both orders, of which of the threads is done first among
others, and then its failure is the same as well. -/
theorem operations_commute (d : UnorderedDisk) :
    (∀ g, g.fault? = none → ∃ p, d.shardDirectory g = .ok p ∧ p.IsChild d.config.root g.text) ∧
    (∀ g g', g.fault? = none → g'.fault? = none → d.shardDirectory g = d.shardDirectory g' → g = g') ∧
    ∀ a b : Operation, a.Apart d b → (a.Writes → b.Unaffected d a.guid) → (b.Writes → a.Unaffected d b.guid) →
      d.Commute a b := by
  refine ⟨fun _ h => shardDirectory_isChild h, fun _ _ h h' he => shardDirectory_injective h h' he, ?_⟩
  intro a b h hb ha
  obtain ⟨hvA, hvB⟩ := h.valid
  obtain ⟨hfA, hfB⟩ := h.fair
  obtain ⟨hdA, hdB⟩ := h.dependencies
  cases a with
  | externalize refusedA nameA gA firstA secondA =>
    cases b with
    | externalize refusedB nameB gB firstB secondB =>
      exact commute_writes h.config h.names hfA hfB (ha trivial) (hb trivial)
    | internalize mB gB kindB firstB secondB =>
      exact commute_write_read h.config h.files hvB h.names hfA hfB (hdB id) (hb trivial)
  | internalize mA gA kindA firstA secondA =>
    cases b with
    | externalize refusedB nameB gB firstB secondB =>
      have hnames := (List.perm_append_comm.nodup_iff).mp h.names
      exact (commute_write_read h.config h.files hvA hnames hfB hfA (hdA id) (ha trivial)).symm
    | internalize mB gB kindB firstB secondB =>
      have hne : gA ≠ gB := by
        rintro rfl
        simpa [Operation.entryNames] using h.names
      exact commute_reads hvA hvB hne (hdB id) (hdA id) hfA hfB

/-! ## Guids beside each other -/

/-- Whether a path and a name can be handed to the file system, and nothing is there. -/
def isFree (fs : FileSystem) (q : Path) (name : String) : Bool :=
  match (q.entry name).check, decide (name.utf8ByteSize ≤ maxNameSize), fs.place (q.entry name) with
  | .ok _, true, .ok (.free ..) => true
  | .ok _, true, .error _ => true
  | _, _, _ => false

theorem node?_of_isFree {fs : FileSystem} {q : Path} {r : Location} (hn : IsEntryName name)
    (h : isFree fs q name = true) (ho : fs.Opens q r) : fs.node? (r ++ [name]) = none := by
  unfold isFree at h
  cases hc : (q.entry name).check with
  | error fault => rw [hc] at h; cases h
  | ok _ =>
    by_cases hs : name.utf8ByteSize ≤ maxNameSize
    · cases hx : fs.node? (r ++ [name]) with
      | none => rfl
      | some x =>
        rw [hc, decide_eq_true hs, FileSystem.Reaches.place ⟨hc, ho, hs⟩ hn, FileSystem.targetAt_some hx] at h
        cases h
    · rw [hc, decide_eq_false hs] at h
      cases h

/-- A staging name that is not taken. -/
theorem fair_externalize (hn : IsEntryName name) (hs : isFree d.ready d.config.root name = true)
    (ha : isFree d.ready d.config.root (asideName name) = true) :
    (Operation.externalize refused name g first second).Fair d :=
  ⟨hn, fun _ ho => ⟨node?_of_isFree hn hs ho, node?_of_isFree hn.aside ha ho⟩⟩

/-- Writes the shard directory of a vertex set. -/
def writing (text : String) : Operation := .externalize .none (".staging-" ++ text) ⟨text⟩ none none

/-- Reads a vertex set. -/
def reading (text : String) : Operation := .internalize {} ⟨text⟩ .vertexSet none none

/-- A directory with a data file for a vertex set of one vertex. -/
def vertexDirectory : Node := .directory [("rows", .file (.table (Table.holding .vertex [⟨8⟩])))]

/-- A disk with two vertex sets in the store and with some files. -/
def neighbours (root : String) (top : Directory) : UnorderedDisk where
  config := { root := ⟨root⟩ }
  store := (Store.empty.install ⟨"v"⟩ (.vertexSet (.ofIds #[7]))).install ⟨"w"⟩ (.vertexSet (.ofIds #[9]))
  files := { top }

/-- A directory is written beside one that is read. -/
theorem write_beside_read :
    (neighbours "d" [("d", .directory [("w", vertexDirectory)])]).Commute (writing "v") (reading "w") ∧
    ((writing "v").run (neighbours "d" [("d", .directory [("w", vertexDirectory)])])).2 =
      .ok ⟨⟨"v"⟩, .vertexSet, 1, 1, ⟨"d/v"⟩⟩ ∧
    ((reading "w").run (neighbours "d" [("d", .directory [("w", vertexDirectory)])])).2 =
      .ok ⟨⟨"w"⟩, .vertexSet, 1, 1, ⟨"d/w"⟩⟩ := by
  generalize hd : neighbours "d" [("d", .directory [("w", vertexDirectory)])] = d
  have hopens : d.files.Opens ⟨"d"⟩ ["d"] := by
    rw [← hd]
    exact ⟨[], maxLinks, rfl, .down ⟨by decide, by decide, by decide, by decide⟩ rfl (.here _ _)⟩
  have hroot : d.config.root = ⟨"d"⟩ := by rw [← hd]; rfl
  have hready : d.ready = d.files := by
    unfold ready
    rw [hroot, FileSystem.makeDirectories_of_opens hopens]
  refine ⟨(operations_commute d).2.2 _ _ ?_ ?_ ?_, ?_, ?_⟩
  · constructor
    · rw [← hd]; rfl
    · rw [← hd]; exact FileSystem.wellFormed_of_top (by decide +kernel)
    · exact ⟨by decide +kernel, by decide +kernel⟩
    · decide +kernel
    · exact ⟨fair_externalize (by decide +kernel) (by rw [← hd]; decide +kernel) (by rw [← hd]; decide +kernel),
        Machine.reliable_default.toFaithful.lists⟩
    · exact ⟨fun h => absurd trivial h, fun _ => by decide⟩
  · intro _
    constructor
    · exact Or.inr hready
    · intro r ho
      rw [hready, hroot] at ho
      obtain rfl := hopens.unique ho
      rw [hready, hroot, ← hd]
      exact ⟨[], maxLinks, rfl, .down ⟨by decide, by decide, by decide, by decide⟩ rfl (.here _ _)⟩
    · intro r ho target
      rw [hready, hroot] at ho
      obtain rfl := hopens.unique ho
      rw [hready, ← hd]
      exact fun h => by cases h
    · exact fun _ => Or.inl hready
  · exact fun h => absurd h id
  · rw [← hd]; exact eq_ok_of_toOption (by decide +kernel)
  · rw [← hd]; exact eq_ok_of_toOption (by decide +kernel)

/-! ## Guids that the file system connects -/

section Connected

variable {root v w : String} {top : Directory}

/-- A vertex set is written, and another one is read. -/
theorem apart_writing_reading (hc : (neighbours root top).config.fault? = none)
    (hf : (Node.directory top).isWellFormed = true)
    (hv : Guid.fault? ⟨v⟩ = none) (hw : Guid.fault? ⟨w⟩ = none) (hname : IsEntryName (".staging-" ++ v))
    (hn : ((writing v).entryNames ++ (reading w).entryNames).Nodup)
    (hs : isFree (neighbours root top).ready ⟨root⟩ (".staging-" ++ v) = true)
    (ha : isFree (neighbours root top).ready ⟨root⟩ (asideName (".staging-" ++ v)) = true) :
    (writing v).Apart (neighbours root top) (reading w) where
  config := hc
  files := FileSystem.wellFormed_of_top hf
  valid := ⟨hv, hw⟩
  names := hn
  fair := ⟨fair_externalize hname hs ha, Machine.reliable_default.toFaithful.lists⟩
  dependencies := ⟨fun h => absurd trivial h, fun _ h => by cases h⟩

theorem not_commute_of_reason {a b : Operation} (h : reason? (b.run (a.run d).1).2 ≠ reason? (b.run d).2) :
    ¬ d.Commute a b := fun hc => h (congrArg reason? hc.second)

end Connected

/-- At the place of one guid there is a link to the place of the other. -/
def linked : UnorderedDisk := neighbours "d" [("d", .directory [("v", .link ⟨"w"⟩)])]

/-- The path to the root leads through the place of a guid. -/
def through : UnorderedDisk := neighbours "d/v/.." [("d", .directory [("v", .directory []), ("w", vertexDirectory)])]

/-- The path to the root leads nowhere until a directory has been made on the way. -/
def detour : UnorderedDisk := neighbours "a/../b" [("b", .directory [("v", vertexDirectory)])]

/-- The root cannot be made, but a directory on the way to it can. -/
def halfway : UnorderedDisk := neighbours "a/../f/c" [("f", .file .empty)]

/-- Where a directory is not found, no vertex set is read from it. -/
theorem reading_of_find_error {fault : IoFault} (hg : g.fault? = none) (h : d.files.find (d.place g) = .error fault) :
    ((reading g.text).run d).2 = .error (.io fault) := by
  have hrebuild : d.rebuild {} g .vertexSet none none = .error (.io fault) := by
    refine (rebuild_eq (shardDirectory_of_valid hg) .vertex).trans ?_
    rw [rowsOf, listing, Machine.reliable_default.toFaithful.list, FileSystem.list, h]
    rfl
  unfold reading Operation.run
  simp only [internalize_of_rebuild_error hrebuild]

/-- Under a missing root an overlong guid is not found; once the root has been made, the guid is too long. -/
theorem interfere_of_overlong (hg : g.fault? = none) (hc : (Path.entry ⟨"d"⟩ g.text).check = .ok ())
    (hlong : maxNameSize < g.text.utf8ByteSize) :
    (writing "w").Apart (neighbours "d" []) (reading g.text) ∧
      ¬ (neighbours "d" []).Commute (writing "w") (reading g.text) := by
  have hname := Guid.isEntryName_of_valid hg
  refine ⟨⟨rfl, FileSystem.wellFormed_of_top (by decide +kernel), ⟨by decide +kernel, hg⟩, ?_, ?_, ?_⟩, fun h => ?_⟩
  · have hsizes : ∀ k ∈ (writing "w").entryNames, k.utf8ByteSize ≤ maxNameSize := by decide +kernel
    refine List.nodup_append.mpr ⟨by decide +kernel, List.nodup_singleton _, fun k hk k' hk' => ?_⟩
    rw [List.mem_singleton.mp hk']
    rintro rfl
    exact absurd (hsizes _ hk) (Nat.not_le.mpr hlong)
  · exact ⟨fair_externalize (by decide +kernel) (by decide +kernel) (by decide +kernel),
      Machine.reliable_default.toFaithful.lists⟩
  · exact ⟨fun h => absurd trivial h, fun _ h => by cases h⟩
  · have hbefore : ((reading g.text).run (neighbours "d" [])).2 = .error (.io .notFound) := by
      refine reading_of_find_error hg ?_
      have hmissing : FileSystem.lookup { top := [] } true (Path.entry ⟨"d"⟩ g.text) = .error .notFound := by
        unfold FileSystem.lookup
        rw [hc, FileSystem.start_entry hname.toIsSegment, Path.lookupSteps_entry hname.toIsSegment]
        have hstep : FileSystem.IsStep "d" := ⟨by decide, by decide, by decide, by decide⟩
        show FileSystem.walk { top := [] } (.look true) maxLinks [] (["d"] ++ [g.text]) = _
        exact FileSystem.walk_missing hstep (by simp) (by simp [hname.ne_empty]) rfl
      show FileSystem.find { top := [] } (Path.entry ⟨"d"⟩ g.text) = _
      unfold FileSystem.find
      rw [hmissing]
      rfl
    have hafter : ((reading g.text).run ((writing "w").run (neighbours "d" [])).1).2 = .error (.io .nameTooLong) := by
      have hplace : ((writing "w").run (neighbours "d" [])).1.place g = Path.entry ⟨"d"⟩ g.text := by
        simp only [writing, Operation.run, externalizeAs_eq]
        rfl
      have hmade : ((writing "w").run (neighbours "d" [])).1.files.isDirectory ⟨"d"⟩ = true := by decide +kernel
      obtain ⟨r, ho⟩ := FileSystem.opens_of_isDirectory hmade
      refine reading_of_find_error hg ?_
      rw [hplace]
      exact FileSystem.find_of_long ho hname hc hlong
    rw [h.second, hbefore] at hafter
    cases hafter

/-- **Different guids do interfere where the file system connects them**: by a link, by a root whose path leads through
one of the places, by a missing root whose making changes where its path leads or how a long name fails, and by a root
that can be made halfway only. -/
theorem operations_interfere :
    ((writing "w").Apart linked (reading "v") ∧ ¬ linked.Commute (writing "w") (reading "v")) ∧
    ((writing "v").Apart through (reading "w") ∧ ¬ through.Commute (writing "v") (reading "w")) ∧
    ((writing "w").Apart detour (reading "v") ∧ ¬ detour.Commute (writing "w") (reading "v")) ∧
    ((writing "w").Apart (neighbours "d" []) (reading (lettered 256).text) ∧
      ¬ (neighbours "d" []).Commute (writing "w") (reading (lettered 256).text)) ∧
    ((writing "v").Apart halfway (writing "w") ∧ ¬ halfway.Commute (writing "v") (writing "w")) := by
  refine ⟨⟨?_, ?_⟩, ⟨?_, ?_⟩, ⟨?_, ?_⟩, ?_, ⟨?_, ?_⟩⟩
  · exact apart_writing_reading rfl (by decide +kernel) (by decide +kernel) (by decide +kernel) (by decide +kernel)
      (by decide +kernel) (by decide +kernel) (by decide +kernel)
  · exact not_commute_of_reason (by decide +kernel)
  · exact apart_writing_reading rfl (by decide +kernel) (by decide +kernel) (by decide +kernel) (by decide +kernel)
      (by decide +kernel) (by decide +kernel) (by decide +kernel)
  · exact not_commute_of_reason (by decide +kernel)
  · exact apart_writing_reading rfl (by decide +kernel) (by decide +kernel) (by decide +kernel) (by decide +kernel)
      (by decide +kernel) (by decide +kernel) (by decide +kernel)
  · exact not_commute_of_reason (by decide +kernel)
  · have hvalid : (lettered 256).fault? = none := fault?_lettered (by decide)
    have hstem : (Path.stem ⟨"d"⟩).utf8ByteSize = 2 := by decide +kernel
    refine interfere_of_overlong hvalid ?_ (by rw [size_lettered]; decide)
    refine Path.check_entry_of_size rfl (Guid.isEntryName_of_valid hvalid).toIsSegment (not_mem_lettered (by decide)) ?_
    rw [hstem, size_lettered]
    decide
  · constructor
    · rfl
    · exact FileSystem.wellFormed_of_top (by decide +kernel)
    · exact ⟨by decide +kernel, by decide +kernel⟩
    · decide +kernel
    · exact ⟨fair_externalize (by decide +kernel) (by decide +kernel) (by decide +kernel),
        fair_externalize (by decide +kernel) (by decide +kernel) (by decide +kernel)⟩
    · exact ⟨fun h => absurd trivial h, fun h => absurd trivial h⟩
  · exact not_commute_of_reason (by decide +kernel)

end UnorderedDisk

end GraphDisk
