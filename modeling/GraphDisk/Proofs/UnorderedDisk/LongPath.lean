import GraphDisk.Proofs.Publication.FreePlace
import GraphDisk.Proofs.UnorderedDisk.Holds

/-!
# Shard directories with a path that is nearly too long

Where nothing is in the way, an entity can be written if the paths on which this happens are not too long
(`UnorderedDisk.externalize_of_free`); a directory in the way makes no difference
(`UnorderedDisk.externalize_of_occupied`). The data file of the shard directory is written while the directory has its
staging name. With a longer final name its path may become too long to be read (`UnorderedDisk.externalize_onlyLong`).
-/

namespace GraphDisk

theorem utf8ByteSize_replicate (n : Nat) (c : Char) :
    (String.ofList (List.replicate n c)).utf8ByteSize = n * c.utf8Size := by
  induction n with
  | zero => simp
  | succ n ih =>
    rw [List.replicate_succ, String.ofList_cons, String.utf8ByteSize_append, ih, String.utf8ByteSize_singleton,
      Nat.succ_mul, Nat.add_comm]

namespace Path

variable {q : Path} {name : String}

theorem size_entry (h : IsSegment name) :
    (q.entry name).text.utf8ByteSize = q.stem.utf8ByteSize + name.utf8ByteSize := by
  rw [entry_eq_stem h, String.utf8ByteSize_append]

theorem stem_entry (h : IsSegment name) : (q.entry name).stem = (q.entry name).text ++ "/" := by
  have hne : (q.entry name).text ≠ "" := by
    rw [entry_eq_stem h]
    exact fun e => h.ne_empty (String.append_eq_empty_iff.mp e).2
  unfold stem
  rw [if_neg (by simp [hne, endsInSlash_entry h])]

theorem check_entry_of_size (hq : q.check = .ok ()) (h : IsSegment name) (hnul : '\x00' ∉ name.toList)
    (hs : q.stem.utf8ByteSize + name.utf8ByteSize ≤ maxPathSize) : (q.entry name).check = .ok () := by
  rw [check_entry hq h hnul, size_entry h, if_neg (Nat.not_lt.mpr hs)]

end Path

namespace UnorderedDisk

variable {d : UnorderedDisk} {g : Guid} {first second : Option Guid} {name : String} {e : Entity} {block : RowBlock}
  {p : Publication} {schema : Schema} {rows : Nat} {r : Location}

theorem externalize_of_run (hp : d.publication (d.freshStagingName g) g first second = .ok (p, schema, rows))
    (hrun : (p.run .none d.files).2 = .ok ()) :
    (d.externalize g first second).2 = .ok ⟨g, schema.kind, rows, 1, p.target⟩ := by
  unfold externalize externalizeAs
  rw [hp]
  simp only
  rcases hafter : p.run .none d.files with ⟨after, fault | ⟨⟩⟩
  · rw [hafter] at hrun
    cases hrun
  · rfl

section Fitting

variable (hc : d.config.fault? = none)
  (hp : d.publication (d.freshStagingName g) g first second = .ok (p, schema, rows))
  (hf : p.Fits) (hm : (d.files.makeDirectories p.root).2 = .ok ()) (ho : (p.ready d.files).Opens p.root r)
include hc hp hf hm ho

/-- **Where nothing is in the way, an entity can be written.** -/
theorem externalize_of_free (hfree : (p.ready d.files).node? (r ++ [p.name]) = none) :
    (d.externalize g first second).2 = .ok ⟨g, schema.kind, rows, 1, p.target⟩ := by
  have hn := wellNamed_of_publication hc (freeName_freshStagingName d g) hp
  have hstaging :=
    (absent_of_publication (freeName_freshStagingName d g) hp).1.free ⟨hf.staging, ho, hf.staging_short⟩ hn.staging
  exact externalize_of_run hp (Publication.run_of_free hn hf hm ho hstaging hfree)

/-- **Where a directory is in the way, an entity can be written**, too. -/
theorem externalize_of_occupied {old : Directory} (hcheck : p.aside.check = .ok ())
    (hshort : (asideName p.stagingName).utf8ByteSize ≤ maxNameSize) (hbeside : p.RootBeside d.files)
    (hold : (p.ready d.files).node? (r ++ [p.name]) = some (.directory old)) :
    (d.externalize g first second).2 = .ok ⟨g, schema.kind, rows, 1, p.target⟩ := by
  have hn := wellNamed_of_publication hc (freeName_freshStagingName d g) hp
  obtain ⟨hs, ha⟩ := absent_of_publication (freeName_freshStagingName d g) hp
  have hstaging := hs.free ⟨hf.staging, ho, hf.staging_short⟩ hn.staging
  exact externalize_of_run hp (Publication.run_of_occupied hn hf hm ho hstaging ha hcheck hshort hbeside hold)

end Fitting

theorem publication_of_rows (name : String) (hg : g.entryName = .ok g.text) (he : d.store.get? g = some e)
    (hb : e.externalRows d.store first second = .ok block) : d.publication name g first second =
      .ok (⟨d.config.root, g.text, name, Table.holding block.schema block.rows, d.config.marker⟩, block.schema,
        block.rows.length) := by
  unfold publication
  rw [hg]
  simp only [bind, Except.bind, he, hb, Table.ofRows_eq]
  rfl

/-! ## A long path -/

/-- A path to the working directory with slashes after it. -/
def padded (n : Nat) : Path := ⟨String.ofList ('.' :: List.replicate n '/')⟩

/-- A guid of some letters. -/
def lettered (n : Nat) : Guid := ⟨String.ofList (List.replicate n 'g')⟩

section Padded

variable {n k : Nat}

theorem toList_padded (n : Nat) : (padded n).text.toList = '.' :: List.replicate n '/' := String.toList_ofList

theorem steps_padded (n : Nat) : (padded n).steps = ["."] := by
  rw [Path.steps_eq, toList_padded]
  induction n with
  | zero => rfl
  | succ n ih => rw [List.replicate_succ', ← List.cons_append, Path.named_append_slash, ih]; rfl

theorem size_padded (n : Nat) : (padded n).text.utf8ByteSize = n + 1 := by
  have hsizes : ('.'.utf8Size = 1) ∧ ('/'.utf8Size = 1) := by decide
  unfold padded
  rw [String.ofList_cons, String.utf8ByteSize_append, utf8ByteSize_replicate, String.utf8ByteSize_singleton, hsizes.1,
    hsizes.2]
  omega

theorem stem_padded (n : Nat) : (padded (n + 1)).stem = (padded (n + 1)).text := by
  have hslash : (padded (n + 1)).endsInSlash = true := by
    unfold Path.endsInSlash
    rw [toList_padded, List.replicate_succ', ← List.cons_append, List.getLast?_concat]
    rfl
  unfold Path.stem
  rw [if_pos (Or.inr hslash)]

theorem check_padded (hn : n + 1 ≤ maxPathSize) : (padded n).check = .ok () := by
  refine Path.check_eq_ok.mpr ⟨?_, ?_, ?_⟩
  · rw [toList_padded]
    simp
  · intro h
    have hsize := congrArg String.utf8ByteSize h
    rw [size_padded] at hsize
    cases hsize
  · rw [size_padded]
    exact hn

theorem opens_padded (n : Nat) {fs : FileSystem} (hw : fs.working = []) : fs.Opens (padded n) [] := by
  refine ⟨[], maxLinks, ?_, ?_⟩
  · have hrelative : (padded n).isAbsolute = false := by
      unfold Path.isAbsolute
      rw [toList_padded]
      rfl
    unfold FileSystem.start
    rw [hrelative, hw]
    rfl
  · rw [steps_padded]
    exact .stay (Or.inl rfl) (.here _ _)

theorem check_padded_entry (h : IsSegment name) (hnul : '\x00' ∉ name.toList)
    (hs : n + 2 + name.utf8ByteSize ≤ maxPathSize) : ((padded (n + 1)).entry name).check = .ok () := by
  apply Path.check_entry_of_size (check_padded (by omega)) h hnul
  rw [stem_padded, size_padded]
  omega

theorem size_padded_stem (n : Nat) (h : IsSegment name) :
    ((padded (n + 1)).entry name).stem.utf8ByteSize = n + 3 + name.utf8ByteSize := by
  have hslash : ("/" : String).utf8ByteSize = 1 := by decide
  rw [Path.stem_entry h, String.utf8ByteSize_append, Path.size_entry h, stem_padded, size_padded, hslash]
  omega

theorem toList_lettered (n : Nat) : (lettered n).text.toList = List.replicate n 'g' := String.toList_ofList

theorem size_lettered (n : Nat) : (lettered n).text.utf8ByteSize = n := by
  have hsize : 'g'.utf8Size = 1 := by decide
  unfold lettered
  rw [utf8ByteSize_replicate, hsize, Nat.mul_one]

theorem lettered_ne {s : String} (h : s.utf8ByteSize ≠ n) : (lettered n).text ≠ s := by
  rintro rfl
  exact h (size_lettered n)

theorem not_mem_lettered {c : Char} (h : c ≠ 'g') : c ∉ (lettered n).text.toList := by
  rw [toList_lettered]
  exact fun hm => h (List.eq_of_mem_replicate hm)

theorem fault?_lettered (hn : 2 < n) : (lettered n).fault? = none := by
  have hsizes : ("".utf8ByteSize = 0) ∧ (".".utf8ByteSize = 1) ∧ ("..".utf8ByteSize = 2) := by decide
  have hreserved : ¬ ((lettered n).text = "" ∨ (lettered n).text = "." ∨ (lettered n).text = "..") := by
    rintro (h | h | h)
    · exact lettered_ne (by omega) h
    · exact lettered_ne (by omega) h
    · exact lettered_ne (by omega) h
  have hseparator : ¬ (lettered n).text.toList.any Guid.isSeparator = true := by
    rw [List.any_eq_true]
    rintro ⟨c, hc, hs⟩
    by_cases hg : c = 'g'
    · rw [hg] at hs
      cases hs
    · exact not_mem_lettered hg hc
  unfold Guid.fault?
  rw [if_neg hreserved, if_neg hseparator]

theorem entryName_lettered (hn : 2 < n) : (lettered n).entryName = .ok (lettered n).text := by
  unfold Guid.entryName
  rw [fault?_lettered hn]

end Padded

section Long

/-- A guid that is as long as a name can be. -/
def longGuid : Guid := lettered 255

theorem entryName_longGuid : longGuid.entryName = .ok longGuid.text := entryName_lettered (by decide)

/-- On the way to its long name a shard directory has a short one. -/
theorem fits_longGuid (table : Table) :
    Publication.Fits ⟨padded 3829, longGuid.text, stagingName 0, table, "_SUCCESS"⟩ := by
  have hguid := (Guid.entryName_ok entryName_longGuid).2.toIsSegment
  have hsize : longGuid.text.utf8ByteSize = 255 := size_lettered 255
  have hnul : '\x00' ∉ longGuid.text.toList := not_mem_lettered (by decide)
  have hstaging := (isEntryName_stagingName 0).toIsSegment
  have hshort : (stagingName 0).utf8ByteSize = 15 := by decide +kernel
  have hmarker : IsSegment "_SUCCESS" := ⟨by decide, by decide⟩
  have hcheck : ((padded 3829).entry (stagingName 0)).check = .ok () := 
    check_padded_entry hstaging (by decide +kernel) (by rw [hshort]; decide)
  have hstem : ((padded 3829).entry (stagingName 0)).stem.utf8ByteSize = 3846 := by
    rw [size_padded_stem 3828 hstaging, hshort]
  have hname : (partFileName 0).utf8ByteSize = 18 := by decide +kernel
  constructor
  · show longGuid.text.utf8ByteSize ≤ maxNameSize
    rw [hsize]
    decide
  · show (stagingName 0).utf8ByteSize ≤ maxNameSize
    rw [hshort]
    decide
  · show ("_SUCCESS" : String).utf8ByteSize ≤ maxNameSize
    decide
  · show ((padded 3829).entry longGuid.text).check = .ok ()
    apply check_padded_entry hguid hnul
    rw [hsize]
    decide
  · exact hcheck
  · apply Path.check_entry_of_size hcheck Publication.isEntryName_partFileName.toIsSegment (by decide +kernel)
    show ((padded 3829).entry (stagingName 0)).stem.utf8ByteSize + (partFileName 0).utf8ByteSize ≤ maxPathSize
    rw [hstem, hname]
    decide
  · apply Path.check_entry_of_size hcheck hmarker (show '\x00' ∉ ("_SUCCESS" : String).toList by decide)
    show ((padded 3829).entry (stagingName 0)).stem.utf8ByteSize + ("_SUCCESS" : String).utf8ByteSize ≤ maxPathSize
    rw [hstem]
    decide

/-- **Nothing but a directory at the place of the long guid**, or nothing at all. -/
structure OnlyLong (fs : FileSystem) : Prop where
  working : fs.working = []
  names : ∀ k ∈ fs.namesAt [], k = longGuid.text
  place : ∀ y, fs.node? [longGuid.text] = some y → ∃ old, y = .directory old

theorem onlyLong_empty : OnlyLong .empty := ⟨rfl, by simp [FileSystem.namesAt, FileSystem.entriesAt, FileSystem.node?,
  FileSystem.empty, Directory.node?], fun y h => by cases h⟩

section Writing

variable (hr : d.config.root = padded 3829) (hf : OnlyLong d.files)
include hr hf

theorem freshStagingName_padded : d.freshStagingName longGuid = stagingName 0 := by
  have hsizes : (stagingName 0).utf8ByteSize = 15 ∧ (asideName (stagingName 0)).utf8ByteSize = 24 := by decide +kernel
  have hother : ∀ k, k.utf8ByteSize ≠ 255 → k ∉ longGuid.text :: (d.files.entriesAt []).map Prod.fst := by
    intro k hk hmem
    rcases List.mem_cons.mp hmem with h | h
    · exact lettered_ne hk h.symm
    · exact lettered_ne hk (hf.names k h).symm
  have hfresh : GraphDisk.freshStagingName (d.files.entriesAt []) longGuid.text = stagingName 0 :=
    freshStagingName_eq_first (hother _ (by rw [hsizes.1]; decide)) (hother _ (by rw [hsizes.2]; decide))
  have hcheck : ((padded 3829).entry ".").check = .ok () := check_padded_entry isSegment_dot (by decide) (by decide)
  have hlist := FileSystem.list_dot (opens_padded 3829 hf.working) hcheck
  unfold freshStagingName
  rw [hr, FileSystem.makeDirectories_of_opens (opens_padded 3829 hf.working), hlist]
  exact hfresh

/-- **An entity with a long guid can be written**, but its data file has too long a path to be read. -/
theorem externalize_onlyLong (hc : d.config.fault? = none) (hm : d.config.marker = "_SUCCESS")
    (he : d.store.get? longGuid = some e) (hb : e.externalRows d.store first second = .ok block) : ∃ after summary,
      d.externalize longGuid first second = (after, .ok summary) ∧ after = { d with files := after.files } ∧
      after.Holds longGuid block ∧ after.TooLong longGuid := by
  obtain ⟨-, hguid⟩ := Guid.entryName_ok entryName_longGuid
  have hpart := Publication.isEntryName_partFileName
  have hp := publication_of_rows (d.freshStagingName longGuid) entryName_longGuid he hb
  have hopens : d.files.Opens d.config.root [] := by
    rw [hr]
    exact opens_padded 3829 hf.working
  have hready : Publication.ready ⟨d.config.root, longGuid.text, d.freshStagingName longGuid,
      Table.holding block.schema block.rows, d.config.marker⟩ d.files = d.files :=
    FileSystem.makeDirectories_of_opens hopens
  have hfits : Publication.Fits ⟨d.config.root, longGuid.text, d.freshStagingName longGuid,
      Table.holding block.schema block.rows, d.config.marker⟩ := by
    rw [freshStagingName_padded hr hf, hr, hm]
    exact fits_longGuid _
  have hroot : (d.files.makeDirectories d.config.root).2 = .ok () :=
    FileSystem.makeDirectories_ok_of_opens hopens (Or.inr (by rw [hr]; exact check_padded (by decide)))
  obtain ⟨summary, hok⟩ : ∃ summary, (d.externalize longGuid first second).2 = .ok summary := by
    cases hy : d.files.node? [longGuid.text] with
    | none =>
      exact ⟨_, externalize_of_free (r := []) hc hp hfits hroot (by rw [hready]; exact hopens)
        (by rw [hready]; exact hy)⟩
    | some y =>
      obtain ⟨old, rfl⟩ := hf.place y hy
      have hsize : (asideName (stagingName 0)).utf8ByteSize = 24 := by decide +kernel
      refine ⟨_, externalize_of_occupied (r := []) hc hp hfits hroot (by rw [hready]; exact hopens) ?_ ?_ ?_
        (by rw [hready]; exact hy)⟩
      · show (d.config.root.entry (asideName (d.freshStagingName longGuid))).check = .ok ()
        rw [freshStagingName_padded hr hf, hr]
        exact check_padded_entry (isEntryName_asideName 0).toIsSegment (by decide +kernel) (by rw [hsize]; decide)
      · show (asideName (d.freshStagingName longGuid)).utf8ByteSize ≤ maxNameSize
        rw [freshStagingName_padded hr hf, hsize]
        decide
      · intro r ho
        rw [hready] at ho ⊢
        obtain rfl := hopens.unique ho
        show FileSystem.Opens _ d.config.root []
        rw [hr]
        exact opens_padded 3829 ((FileSystem.working_erase _ _).trans hf.working)
  obtain ⟨after, hw⟩ := externalize_of_toOption (by rw [hok]; rfl)
  obtain ⟨e', block', he', hb', hafter, -, hholds⟩ := holds_of_externalize hc (freeName_freshStagingName d _) hw
  rw [he] at he'
  cases he'
  rw [hb] at hb'
  cases hb'
  refine ⟨after, _, hw, hafter, hholds, ?_⟩
  have hconfig : after.config = d.config := by rw [hafter]
  have hsize : longGuid.text.utf8ByteSize = 255 := size_lettered 255
  have hstem : ((padded 3829).entry longGuid.text).stem.utf8ByteSize = 4086 := by
    rw [size_padded_stem 3828 hguid.toIsSegment, hsize]
  have hname : (partFileName 0).utf8ByteSize = 18 := by decide +kernel
  unfold TooLong dataFile place
  rw [hconfig, hr, Path.size_entry hpart.toIsSegment, hstem, hname]
  decide

end Writing

/-- An entity with a long guid can be written where there are no files. -/
theorem externalize_longGuid (hr : d.config.root = padded 3829) (hf : d.files = .empty) (hc : d.config.fault? = none)
    (hm : d.config.marker = "_SUCCESS") (he : d.store.get? longGuid = some e)
    (hb : e.externalRows d.store first second = .ok block) : ∃ after summary,
      d.externalize longGuid first second = (after, .ok summary) ∧ after = { d with files := after.files } ∧
      after.Holds longGuid block ∧ after.TooLong longGuid :=
  externalize_onlyLong hr (by rw [hf]; exact onlyLong_empty) hc hm he hb

end Long

end UnorderedDisk

end GraphDisk
