import GraphDisk.Proofs.Publication.Phases
import GraphDisk.Proofs.UnorderedDisk.Repeated

/-!
# Writing that is interrupted

Whoever looks at the place of a shard directory while it is written, or after the program was stopped, finds what was
there before, or nothing while what was there lies aside, or the complete directory
(`UnorderedDisk.never_half_written`). That is so at every moment after the root has been made. Making the root makes no
difference for the place, either, unless the root was missing and its path leads through the place: then the place is
made on the way (`place_made_with_root`).
-/

namespace GraphDisk

open FileSystem (MoreDirectories)

namespace UnorderedDisk

variable {d : UnorderedDisk} {g : Guid} {first second : Option Guid} {refused : Refusals}
  {moments : Moments} {name : String}

/-- What writing passes through; if something is wrong with the request, nothing happens. -/
def trace (moments : Moments) (refused : Refusals) (stagingName : String) (d : UnorderedDisk) (g : Guid)
    (first second : Option Guid) : List FileSystem :=
  match d.publication stagingName g first second with
  | .error _ => []
  | .ok (p, _, _) => p.trace moments refused d.files

/-- The last that is passed is what writing leaves. -/
theorem getLastD_trace (d : UnorderedDisk) (g : Guid) (first second : Option Guid) :
    (d.trace moments refused name g first second).getLastD d.files =
      (d.externalizeAs refused name g first second).1.files := by
  unfold trace externalizeAs
  rcases d.publication name g first second with e | ⟨p, schema, rows⟩
  · rfl
  · simp only [Publication.getLastD_trace]
    rcases p.run refused d.files with ⟨files, fault | ⟨⟩⟩ <;> rfl

/-- The root is made first. -/
theorem ready_mem_trace {p : Publication} {schema : Schema} {rows : Nat}
    (hp : d.publication name g first second = .ok (p, schema, rows)) :
    d.ready ∈ d.trace moments .none name g first second := by
  rw [trace, hp]
  obtain ⟨-, -, -, -, -, -, -, -, -, rfl⟩ := publication_ok hp
  exact Publication.ready_mem_trace _ _

/-! ## Making the root -/

/-- None of the directories on the way to the root lies at a location or below. -/
def RootApart (d : UnorderedDisk) (l : Location) : Prop :=
  ∀ q ∈ d.config.root.chain, ∀ l' x, d.ready.place q = .ok (.found l' x) → ¬ l <+: l'

/-- While the root is made, nothing changes where the path to it does not lead, and nothing at all if the root is there.
-/
theorem node?_of_making {s : FileSystem} {r l : Location} (h : d.files.Grows d.config.root.chain s)
    (h' : s.Grows d.config.root.chain d.ready) (hr : d.files.Opens d.config.root r ∨ d.RootApart l) :
    s.node? l = d.files.node? l := by
  rcases hr with hr | hr
  · have hsame : d.ready = d.files := FileSystem.makeDirectories_of_opens hr
    rw [hsame] at h'
    rw [h.eq_of_extends h'.moreDirectories.kept]
  · exact h.node h' hr

/-! ## Writing -/

/-- What is to be published for the rows of an entity. -/
def publicationOf (d : UnorderedDisk) (stagingName : String) (g : Guid) (block : RowBlock) : Publication :=
  ⟨d.config.root, g.text, stagingName, Table.holding block.schema block.rows, d.config.marker⟩

/-- Where the complete directory is at its place, the rows are held. -/
theorem holds_of_place {s : FileSystem} {l : Location} {block : RowBlock} (hg : g.entryName = .ok g.text)
    (h : s.place (d.place g) =
      .ok (.found l (.directory (shardFiles d.config.marker (Table.holding block.schema block.rows))))) :
    { d with files := s }.Holds g block := by
  obtain ⟨r, hr, ht⟩ := FileSystem.reaches_of_place (Guid.entryName_ok hg).2 h
  cases hx : s.node? (r ++ [g.text]) with
  | none => rw [FileSystem.targetAt_none hx] at ht; cases ht
  | some x =>
    rw [FileSystem.targetAt_some hx] at ht
    cases ht
    exact holds_of_reaches (d := { d with files := s }) hg hr hx

/-- Moments at which the place is complete have the same directory at the same place. -/
theorem holds_of_inPlace {block : RowBlock} {states : List FileSystem}
    (hg : g.entryName = .ok g.text) (hne : states ≠ [])
    (h : ∀ s ∈ states, (d.publicationOf name g block).InPlace d.ready s) :
    ∃ r, d.ready.Opens d.config.root r ∧ ∀ s ∈ states, s.place (d.place g) = .ok (.found (r ++ [g.text])
      (.directory (shardFiles d.config.marker (Table.holding block.schema block.rows)))) ∧
      { d with files := s }.Holds g block := by
  obtain ⟨s₀, hs₀⟩ := List.exists_mem_of_ne_nil states hne
  obtain ⟨r, ho, -⟩ := h s₀ hs₀
  refine ⟨r, ho, fun s hs => ?_⟩
  obtain ⟨r', ho', hplace⟩ := h s hs
  obtain rfl := ho.unique ho'
  exact ⟨hplace, holds_of_place hg hplace⟩

/-- **A shard directory is never half written.** What writing passes through, in whatever way calls fail on the way and
however it is looked at while they are carried out, falls into phases. While the root is made, only directories on the
way to it are new, and the place is as it was if the root was there or its path does not lead through the place. Then
the place is as it was once the root had been made. Then it may be empty, while what was there lies aside unchanged. At
last it is as it was, if the writing was taken back, or it has one data file with all rows, the marker and nothing else,
and that stays so; this is the end if the writing succeeds. -/
theorem never_half_written (hc : d.config.fault? = none) (hm : d.config.marker ≠ partFileName 0)
    (hf : d.FreeName g name) (hpossible : moments.Possible) :
    (d.trace moments refused name g first second).getLastD d.files =
      (d.externalizeAs refused name g first second).1.files ∧
    ∃ making before between final,
      d.trace moments refused name g first second = making ++ (before ++ between ++ final) ∧
      (∀ s ∈ making, MoreDirectories d.config.root.chain d.files s ∧ MoreDirectories d.config.root.chain s d.ready) ∧
      (∀ r, d.ready.Opens d.config.root r → d.files.Opens d.config.root r ∨ d.RootApart (r ++ [g.text]) →
        ∀ s ∈ d.ready :: making, s.node? (r ++ [g.text]) = d.files.node? (r ++ [g.text])) ∧
      (∀ s ∈ before, s.place (d.place g) = d.ready.place (d.place g)) ∧
      (∀ s ∈ between, Publication.Absent s (d.place g) ∧ ∃ r old, d.ready.Opens d.config.root r ∧
        d.ready.place (d.place g) = .ok (.found (r ++ [g.text]) old) ∧ s.node? (r ++ [g.text]) = none ∧
        s.node? (r ++ [asideName name]) = some old) ∧
      ((∀ s ∈ final, s.place (d.place g) = d.ready.place (d.place g)) ∧
          (∀ summary, (d.externalizeAs refused name g first second).2 ≠ .ok summary) ∨
        final ≠ [] ∧ ∃ e block entries r, d.store.get? g = some e ∧ e.externalRows d.store first second = .ok block ∧
          entries.Perm [(d.config.marker, .file .empty),
            (partFileName 0, .file (.table (Table.holding block.schema block.rows)))] ∧
          d.ready.Opens d.config.root r ∧
          ∀ s ∈ final, s.place (d.place g) = .ok (.found (r ++ [g.text]) (.directory entries)) ∧
            { d with files := s }.Holds g block) := by
  refine ⟨getLastD_trace d g first second, ?_⟩
  have hgrows : d.files.Grows d.config.root.chain d.ready := FileSystem.grows_makeDirectories _ _
  rcases hp : d.publication name g first second with e | ⟨p, schema, rows⟩
  · have htrace : d.trace moments refused name g first second = [] := by rw [trace, hp]
    refine ⟨[], [], [], [], htrace, by simp, fun r _ hr s hs => ?_, by simp, by simp, Or.inl ⟨by simp, ?_⟩⟩
    · rw [List.mem_singleton.mp hs]
      exact node?_of_making hgrows .refl hr
    · intro summary hs
      obtain ⟨p, _, _, hok, -⟩ := externalizeAs_ok (Prod.ext rfl hs)
      rw [hp] at hok
      cases hok
  have hn := wellNamed_of_publication hc hf hp
  have hg := entryName_of_publication hp
  obtain ⟨-, e, block, table, he, hb, ht, rfl, rfl, rfl⟩ := publication_ok hp
  rw [Table.ofRows_eq] at ht
  cases ht
  have htrace : d.trace moments refused name g first second =
      (d.publicationOf name g block).trace moments refused d.files := by
    rw [trace, hp]
    rfl
  obtain ⟨making, states, hstates, hmaking, before, between, final, rfl, hbefore, hbetween, hfinal, hsuccess⟩ :=
    Publication.phases_trace hn (absent_of_publication hf hp).2 hpossible
  refine ⟨making, before, between, final, htrace.trans hstates, fun s hs => ?_, fun r _ hr => ?_, hbefore, hbetween, ?_⟩
  · exact ⟨(hmaking s hs).1.moreDirectories, (hmaking s hs).2.moreDirectories⟩
  · refine List.forall_mem_cons.mpr ⟨node?_of_making hgrows .refl hr, fun s hs => ?_⟩
    exact node?_of_making (hmaking s hs).1 (hmaking s hs).2 hr
  have hperm := shardFiles_perm (t := Table.holding block.schema block.rows) hm
  have hcomplete (hne : final ≠ [])
      (hplace : ∀ s ∈ final, (d.publicationOf name g block).InPlace d.ready s) :=
    holds_of_inPlace hg hne hplace
  by_cases hrun : ((d.publicationOf name g block).run refused d.files).2 = .ok ()
  · obtain ⟨hne, hplace⟩ := hsuccess hrun
    obtain ⟨r, ho, hall⟩ := hcomplete hne hplace
    exact Or.inr ⟨hne, e, block, _, r, he, hb, hperm, ho, hall⟩
  · have hfails : ∀ summary, (d.externalizeAs refused name g first second).2 ≠ .ok summary := by
      intro summary hs
      obtain ⟨p, _, _, hok, hrun', -⟩ := externalizeAs_ok (Prod.ext rfl hs)
      rw [hp] at hok
      cases hok
      exact hrun (congrArg Prod.snd hrun')
    rcases hfinal with hfinal | hfinal
    · exact Or.inl ⟨hfinal, hfails⟩
    · by_cases hne : final = []
      · exact Or.inl ⟨by simp [hne], hfails⟩
      · obtain ⟨r, ho, hall⟩ := hcomplete hne hfinal
        exact Or.inr ⟨hne, e, block, _, r, he, hb, hperm, ho, hall⟩

/-- Files are looked at when the first byte of them has been written. -/
def firstBytes : Moments
  | fs, .writeFile p content => (fs.writeFile p (content.keep 1)).toOption.toList
  | _, _ => []

theorem possible_firstBytes : firstBytes.Possible := by
  intro fs c s hs
  cases c with
  | writeFile p content =>
    simp only [firstBytes, Option.mem_toList] at hs
    exact .writeFile 1 (eq_ok_of_toOption hs)
  | _ => cases hs

theorem place_oldDirectory :
    (occupiedDisk oldDirectory).files.place ⟨"d/v"⟩ = .ok (.found ["d", "v"] oldDirectory) := by
  have hreach : (occupiedDisk oldDirectory).files.Reaches ⟨"d"⟩ "v" ["d"] :=
    ⟨by decide +kernel, opens_occupiedDisk oldDirectory, by decide⟩
  exact hreach.place ⟨⟨by decide, by decide⟩, by decide, by decide⟩

/-- A directory is replaced, and whoever looks finds it, nothing, or the new one. -/
theorem directory_replaced_at_once : ∃ making before between final entries,
    (occupiedDisk oldDirectory).trace firstBytes .none
        ((occupiedDisk oldDirectory).freshStagingName ⟨"v"⟩) ⟨"v"⟩ none none =
      making ++ (before ++ between ++ final) ∧
    (∀ s ∈ making, s.node? ["d", "v"] = some oldDirectory) ∧
    (∀ s ∈ before, s.place ⟨"d/v"⟩ = .ok (.found ["d", "v"] oldDirectory)) ∧
    (∀ s ∈ between, s.node? ["d", "v"] = none ∧
      s.node? ["d", asideName ((occupiedDisk oldDirectory).freshStagingName ⟨"v"⟩)] = some oldDirectory) ∧
    entries.Perm [("_SUCCESS", .file .empty), (partFileName 0, .file (.table (Table.holding .vertex [⟨7⟩])))] ∧
    final ≠ [] ∧ ∀ s ∈ final, s.place ⟨"d/v"⟩ = .ok (.found ["d", "v"] (.directory entries)) := by
  have hopens := opens_occupiedDisk oldDirectory
  have hready : (occupiedDisk oldDirectory).ready = (occupiedDisk oldDirectory).files :=
    FileSystem.makeDirectories_of_opens hopens
  have hroot : ∀ {r}, (occupiedDisk oldDirectory).files.Opens (occupiedDisk oldDirectory).config.root r → r = ["d"] :=
    fun ho => FileSystem.Opens.unique ho hopens
  have hplaced : (occupiedDisk oldDirectory).files.place ((occupiedDisk oldDirectory).place ⟨"v"⟩) =
      .ok (.found ["d", "v"] oldDirectory) := place_oldDirectory
  obtain ⟨after, hwritten⟩ := externalize_oldDirectory
  obtain ⟨-, making, before, between, final, htrace, -, hmaking, hbefore, hbetween, hfinal⟩ :=
    @never_half_written (occupiedDisk oldDirectory) ⟨"v"⟩ none none .none firstBytes _ rfl (by decide +kernel)
      (freeName_freshStagingName _ _) possible_firstBytes
  rw [hready, hplaced] at hbefore
  rw [hready] at hmaking hbetween hfinal
  rcases hfinal with ⟨-, hfails⟩ | ⟨hne, e, block, entries, r, he, hb, hperm, ho, hall⟩
  · exact absurd (congrArg Prod.snd hwritten) (hfails _)
  · have hvertices : (occupiedDisk oldDirectory).store.get? ⟨"v"⟩ = some (.vertexSet (.ofIds #[7])) := rfl
    rw [hvertices] at he
    cases he
    cases hb
    obtain rfl := hroot ho
    refine ⟨making, before, between, final, entries, htrace, fun s hs => ?_, hbefore, fun s hs => ?_, hperm, hne,
      fun s hs => (hall s hs).1⟩
    · exact hmaking ["d"] hopens (Or.inl hopens) s (List.mem_cons_of_mem _ hs)
    · obtain ⟨-, r, old, hr, hold, hgone, haside⟩ := hbetween s hs
      obtain rfl := hroot hr
      rw [hplaced] at hold
      cases hold
      exact ⟨hgone, haside⟩

/-- A disk whose root is not there, and whose path to the root leads through the place of a shard directory. -/
def throughDisk : UnorderedDisk :=
  new { root := ⟨"a/v/.."⟩, marker := "\x00" } (Store.empty.install ⟨"v"⟩ (.vertexSet (.ofIds #[7])))

/-- **The place is made with the root.** Nothing is at the place; the root is made, and then an empty directory is at
the place. Since the marker cannot be written nothing more is done, and an entity without rows is read. -/
theorem place_made_with_root :
    throughDisk.files.exists? (throughDisk.place ⟨"v"⟩) = false ∧
    (∃ s ∈ throughDisk.trace .none .none (throughDisk.freshStagingName ⟨"v"⟩) ⟨"v"⟩ none none,
      s.list (throughDisk.place ⟨"v"⟩) = .ok []) ∧
    ∃ after, throughDisk.externalize ⟨"v"⟩ none none = (after, .error (.io .nulInPath)) ∧
      (after.internalize ⟨"v"⟩ .vertexSet none none).2 = .ok ⟨⟨"v"⟩, .vertexSet, 0, 0, ⟨"a/v/../v"⟩⟩ := by
  have hpublication : (throughDisk.publication (throughDisk.freshStagingName ⟨"v"⟩) ⟨"v"⟩ none none).isOk = true := by
    decide +kernel
  have hempty : (throughDisk.ready.list (throughDisk.place ⟨"v"⟩)).toOption.any List.isEmpty = true := by decide +kernel
  have hreason : reason? (throughDisk.externalize ⟨"v"⟩ none none).2 = some (.io .nulInPath) := by decide +kernel
  have hread : ((throughDisk.externalize ⟨"v"⟩ none none).1.internalize ⟨"v"⟩ .vertexSet none none).2.toOption =
      some ⟨⟨"v"⟩, .vertexSet, 0, 0, ⟨"a/v/../v"⟩⟩ := by decide +kernel
  refine ⟨by decide +kernel, ⟨throughDisk.ready, ?_, ?_⟩, ?_⟩
  · rcases hp : throughDisk.publication (throughDisk.freshStagingName ⟨"v"⟩) ⟨"v"⟩ none none with e | ⟨p, schema, rows⟩
    · rw [hp] at hpublication; cases hpublication
    · exact ready_mem_trace hp
  · rcases hlist : throughDisk.ready.list (throughDisk.place ⟨"v"⟩) with fault | entries
    · rw [hlist] at hempty; cases hempty
    · rw [hlist] at hempty
      rw [List.isEmpty_iff.mp hempty]
  · generalize throughDisk.externalize ⟨"v"⟩ none none = x at hreason hread
    obtain ⟨after, outcome⟩ := x
    exact ⟨after, Prod.ext rfl (eq_error_of_reason? hreason), eq_ok_of_toOption hread⟩

end UnorderedDisk

end GraphDisk
