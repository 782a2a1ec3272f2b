import GraphDisk.Proofs.Shard.RoundTrip
import GraphDisk.Proofs.UnorderedDisk.Publication

/-!
# Writing that fails

Writing the shard directory of an entity fails before the file system is touched, with what is wrong with the request,
or because a file-system call has failed (`UnorderedDisk.externalizeAs_error`). In both cases everything is as before,
unless a call has failed that takes something back (`UnorderedDisk.restored_of_externalize`).
-/

namespace GraphDisk

variable {s : Store} {g : Guid} {first second : Option Guid} {e : Error}

/-! ## What can be wrong with a request -/

/-- **What can be wrong with a request to write**: all of it is noticed before the file system is touched. -/
inductive Error.OfRequest : Error → Prop
  | invalidGuid (fault : Guid.Fault) : OfRequest (.invalidGuid fault)
  | entityNotFound (g : Guid) : OfRequest (.entityNotFound g)
  | unsupportedKind (name : String) : OfRequest (.unsupportedKind name)
  | dependencyNotFound (g : Guid) : OfRequest (.dependencyNotFound g)
  | dependencyKind (g : Guid) (expected found : Kind) : OfRequest (.dependencyKind g expected found)
  | indexOutOfRange (g : Guid) (index : Nat) : OfRequest (.indexOutOfRange g index)

theorem Store.dependency_error (h : s.dependency first = .error e) : e.OfRequest := by
  rcases bind_eq_error.mp h with h | ⟨vs, -, h⟩
  · unfold Store.vertexSet at h
    split at h
    · cases h
    · cases h
      exact .dependencyKind _ _ _
    · cases h
      exact .dependencyNotFound _
  · cases h

theorem Dependency.externalId_error {d : Dependency} {i : Nat} (h : d.externalId i = .error e) : e.OfRequest := by
  unfold Dependency.externalId at h
  split at h
  · cases h
  · cases h
    exact .indexOutOfRange _ _

theorem EdgeBundle.externalRows_error {eb : EdgeBundle} {src dst : Dependency}
    (h : eb.externalRows src dst = .error e) :
    e.OfRequest := by
  obtain ⟨-, x, -, -, -, hx⟩ := mapM_eq_error.mp h
  rcases bind_eq_error.mp hx with hx | ⟨s, -, hx⟩
  · exact Dependency.externalId_error hx
  · rcases bind_eq_error.mp hx with hx | ⟨t, -, hx⟩
    · exact Dependency.externalId_error hx
    · cases hx

theorem Attribute.externalRows_error {α : Type} {a : Attribute α} {d : Dependency} (h : a.externalRows d = .error e) :
    e.OfRequest := by
  obtain ⟨-, x, -, -, -, hx⟩ := mapM_eq_error.mp h
  rcases bind_eq_error.mp hx with hx | ⟨id, -, hx⟩
  · exact Dependency.externalId_error hx
  · cases hx

theorem Entity.externalRows_error {x : Entity} (h : x.externalRows s first second = .error e) : e.OfRequest := by
  have hattribute : ∀ {α : Type} {a : Attribute α} {block : List (AttributeRow α) → RowBlock},
      (do return block (← a.externalRows (← s.dependency first))) = Except.error e → e.OfRequest := by
    intro α a block ha
    rcases bind_eq_error.mp ha with ha | ⟨d, -, ha⟩
    · exact Store.dependency_error ha
    · rcases bind_eq_error.mp ha with ha | ⟨rows, -, ha⟩
      · exact Attribute.externalRows_error ha
      · cases ha
  cases x with
  | scalar v =>
    cases h
    exact .unsupportedKind _
  | vertexSet vs => cases h
  | edgeBundle eb =>
    rcases bind_eq_error.mp h with h | ⟨src, -, h⟩
    · exact Store.dependency_error h
    · rcases bind_eq_error.mp h with h | ⟨dst, -, h⟩
      · exact Store.dependency_error h
      · rcases bind_eq_error.mp h with h | ⟨rows, -, h⟩
        · exact EdgeBundle.externalRows_error h
        · cases h
  | doubleAttribute a => exact hattribute h
  | stringAttribute a => exact hattribute h
  | pairAttribute a => exact hattribute h

namespace UnorderedDisk

variable {d after : UnorderedDisk} {refused : Refusals} {name : String}

theorem publication_error (h : d.publication name g first second = .error e) : e.OfRequest := by
  rcases bind_eq_error.mp h with h | ⟨text, -, h⟩
  · unfold Guid.entryName at h
    split at h
    · cases h
      exact .invalidGuid _
    · cases h
  · split at h
    · cases h
      exact .entityNotFound _
    · rcases bind_eq_error.mp h with h | ⟨block, -, h⟩
      · exact Entity.externalRows_error h
      · rw [Table.ofRows_eq] at h
        cases h

/-! ## Writing that fails -/

theorem externalizeAs_error (h : d.externalizeAs refused name g first second = (after, .error e)) :
    after = d ∧ d.publication name g first second = .error e ∨
    ∃ p schema rows files fault, d.publication name g first second = .ok (p, schema, rows) ∧
      p.run refused d.files = (files, .error fault) ∧ after = { d with files } ∧ e = .io fault := by
  unfold externalizeAs at h
  cases hp : d.publication name g first second with
  | error e' =>
    rw [hp] at h
    cases h
    exact Or.inl ⟨rfl, rfl⟩
  | ok x =>
    obtain ⟨p, schema, rows⟩ := x
    rw [hp] at h
    simp only at h
    rcases hr : p.run refused d.files with ⟨files, fault | ⟨⟩⟩
    · rw [hr] at h
      cases h
      exact Or.inr ⟨p, schema, rows, files, fault, rfl, hr, rfl, rfl⟩
    · rw [hr] at h
      cases h

/-- **Writing that fails leaves everything as it was.** Either something is wrong with the request, and nothing has
happened, or a file-system call has failed. Then the store is the same, and all files are as before but for directories
on the way to the root, unless one of the two calls has failed that take something back. These do not fail by themselves
if the path to the root does not need what is at the place of the shard directory. -/
theorem restored_of_externalize (hc : d.config.fault? = none) (hf : d.FreeName g name)
    (h : d.externalizeAs refused name g first second = (after, .error e)) :
    e.OfRequest ∧ after = d ∨
    (∃ fault, e = .io fault) ∧ after = { d with files := after.files } ∧
    ∃ p schema rows, d.publication name g first second = .ok (p, schema, rows) ∧
      p.target = d.config.root.entry g.text ∧
      (p.removal ∉ p.failures refused d.files → p.restoration ∉ p.failures refused d.files →
        p.Restored d.files after.files) ∧
      (refused p.removal = none → refused p.restoration = none → p.RootBeside d.files →
        p.removal ∉ p.failures refused d.files ∧ p.restoration ∉ p.failures refused d.files) := by
  rcases externalizeAs_error h with ⟨rfl, hp⟩ | ⟨p, schema, rows, files, fault, hp, hrun, rfl, rfl⟩
  · exact Or.inl ⟨publication_error hp, rfl⟩
  · have hn := wellNamed_of_publication hc hf hp
    obtain ⟨hs, ha⟩ := absent_of_publication hf hp
    have hab := Publication.abandoned_of_run hn hrun
    have htarget : p.target = d.config.root.entry g.text := by
      obtain ⟨-, x, block, table, -, -, -, -, -, rfl⟩ := publication_ok hp
      rfl
    refine Or.inr ⟨⟨fault, rfl⟩, rfl, p, schema, rows, hp, htarget, ?_, ?_⟩
    · intro hd hr
      exact hab.restored hn hs ha hd hr
    · intro hd hr ho
      exact hab.undone hn ha ho hd hr

/-- Files without content cannot be written. -/
def emptyFilesRefused : Refusals
  | .writeFile _ .empty => some .isDirectory
  | _ => none

/-- A disk in the working directory with a vertex set. -/
def workingDisk : UnorderedDisk := new { root := ⟨""⟩ } (Store.empty.install ⟨"v"⟩ (.vertexSet (.ofIds #[7])))

/-- A disk with a vertex set, where something is at the place of its shard directory. -/
def occupiedDisk (old : Node) : UnorderedDisk where
  config := { root := ⟨"d"⟩ }
  store := Store.empty.install ⟨"v"⟩ (.vertexSet (.ofIds #[7]))
  files := { top := [("d", .directory [("v", old)])] }

theorem opens_occupiedDisk (old : Node) : (occupiedDisk old).files.Opens ⟨"d"⟩ ["d"] :=
  ⟨[], maxLinks, rfl, .down ⟨by decide, by decide, by decide, by decide⟩ rfl (.here _ _)⟩

theorem rootBeside_occupiedDisk (old : Node) {p : Publication} (hroot : p.root = ⟨"d"⟩) (hname : p.name = "v") :
    p.RootBeside (occupiedDisk old).files := by
  have hopens := opens_occupiedDisk old
  intro r ho
  rw [Publication.ready, hroot, FileSystem.makeDirectories_of_opens hopens] at ho ⊢
  obtain rfl := hopens.unique ho
  rw [hname]
  exact ⟨[], maxLinks, rfl, .down ⟨by decide, by decide, by decide, by decide⟩ rfl (.here _ _)⟩

/-- A directory with a directory in it. -/
def oldDirectory : Node := .directory [("sub", .directory [])]

/-- A directory cannot be renamed. -/
def renameRefused (source : Path) : Refusals
  | .rename p _ => if p = source then some .notDirectory else none
  | _ => none

/-- With nothing at the place, the marker cannot be written. With a directory there, the assembled one cannot be put in
its place after the old one has been moved aside, so the old one is moved back. -/
theorem restored_after_refusals :
    (∃ after p, workingDisk.externalizeAs emptyFilesRefused (workingDisk.freshStagingName ⟨"v"⟩) ⟨"v"⟩ none none =
        (after, .error (.io .isDirectory)) ∧
      p.target = ⟨"v"⟩ ∧ Publication.Restored p workingDisk.files after.files) ∧
    ∃ after p, (occupiedDisk oldDirectory).externalizeAs (renameRefused ⟨"d/.staging-000000"⟩)
        ((occupiedDisk oldDirectory).freshStagingName ⟨"v"⟩) ⟨"v"⟩ none none = (after, .error (.io .notDirectory)) ∧
      p.target = ⟨"d/v"⟩ ∧ Publication.Restored p (occupiedDisk oldDirectory).files after.files ∧
      (after.files.list ⟨"d/v"⟩).toOption.map (List.map Prod.fst) = some ["sub"] := by
  -- nothing is wrong with either request, so it is a call that has failed
  have hfailed : ∀ (d : UnorderedDisk) (refused : Refusals) (fault : IoFault), d.config.fault? = none →
      reason? (d.externalizeAs refused (d.freshStagingName ⟨"v"⟩) ⟨"v"⟩ none none).2 = some (.io fault) →
      (∀ p : Publication, p.root = d.config.root → p.name = "v" → p.stagingName = d.freshStagingName ⟨"v"⟩ →
        refused p.removal = none ∧ refused p.restoration = none ∧ p.RootBeside d.files) →
      ∃ after p, d.externalizeAs refused (d.freshStagingName ⟨"v"⟩) ⟨"v"⟩ none none = (after, .error (.io fault)) ∧
        p.target = d.config.root.entry "v" ∧ Publication.Restored p d.files after.files := by
    intro d refused fault hc hreason hgranted
    generalize hw : d.externalizeAs refused (d.freshStagingName ⟨"v"⟩) ⟨"v"⟩ none none = x at hreason ⊢
    obtain ⟨after, outcome⟩ := x
    obtain rfl := eq_error_of_reason? hreason
    rcases restored_of_externalize hc (freeName_freshStagingName _ _) hw with
      ⟨h, -⟩ | ⟨-, -, p, schema, rows, hp, htarget, hrestored, hundo⟩
    · cases h
    · obtain ⟨-, e, block, table, -, -, -, -, -, hpublication⟩ := publication_ok hp
      obtain ⟨hremoval, hrestoration, hbeside⟩ :=
        hgranted p (by rw [hpublication]) (by rw [hpublication]) (by rw [hpublication])
      obtain ⟨hd, hr⟩ := hundo hremoval hrestoration hbeside
      exact ⟨after, p, rfl, htarget, hrestored hd hr⟩
  constructor
  · refine hfailed workingDisk emptyFilesRefused .isDirectory rfl (by decide +kernel) fun p hroot hname _ =>
      ⟨rfl, rfl, Publication.rootBeside_of_free fun r ho => ?_⟩
    have hopens : FileSystem.empty.Opens ⟨""⟩ [] := ⟨[], maxLinks, rfl, .here _ _⟩
    rw [Publication.ready, hroot] at ho ⊢
    obtain rfl := hopens.unique ho
    rw [hname]
    rfl
  · obtain ⟨after, p, hw, htarget, hrestored⟩ := hfailed (occupiedDisk oldDirectory)
      (renameRefused ⟨"d/.staging-000000"⟩) .notDirectory rfl (by decide +kernel) fun p hroot hname hstaging => by
        refine ⟨rfl, if_neg ?_, rootBeside_occupiedDisk oldDirectory hroot hname⟩
        rw [Publication.aside, hroot, hstaging]
        decide +kernel
    refine ⟨after, p, hw, htarget, hrestored, ?_⟩
    rw [show after = _ from (congrArg Prod.fst hw).symm]
    decide +kernel

end UnorderedDisk

end GraphDisk
