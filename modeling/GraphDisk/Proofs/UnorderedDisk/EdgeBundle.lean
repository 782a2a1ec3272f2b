import GraphDisk.Proofs.EdgeBundle
import GraphDisk.Proofs.UnorderedDisk.LongPath

/-!
# Edge bundles on disk

An edge bundle that was written against one pair of vertex sets and is read against another one has the same edges, or
an edge is lost and the first such edge is reported, its source before its destination
(`UnorderedDisk.internalize_edgeBundle`).
-/

namespace GraphDisk

namespace UnorderedDisk

variable {d disk after : UnorderedDisk} {refused : Refusals} {g : Guid} {first second first' second' : Option Guid}
  {summary : Summary} {m : Machine} {eb : EdgeBundle} {rows : List EdgeRow} {block : RowBlock}
  {src dst src' dst' : Dependency}

theorem externalRows_edgeBundle {s : Store} (h : (Entity.edgeBundle eb).externalRows s first second = .ok block) :
    ∃ src dst rows, s.dependency first = .ok src ∧ s.dependency second = .ok dst ∧ eb.externalRows src dst = .ok rows ∧
      block = ⟨.edge, rows⟩ := by
  obtain ⟨src, h₁, h⟩ := bind_eq_ok.mp h
  obtain ⟨dst, h₂, h⟩ := bind_eq_ok (x := s.dependency second).mp h
  obtain ⟨rows, hrows, h⟩ := bind_eq_ok (x := eb.externalRows src dst).mp h
  cases h
  exact ⟨src, dst, rows, h₁, h₂, hrows, rfl⟩

/-- Reading an edge bundle is reading its rows and looking up their ends. -/
theorem rebuild_edgeBundle {directory : Path} (hd : d.shardDirectory g = .ok directory)
    (h₁ : d.store.dependency first = .ok src) (h₂ : d.store.dependency second = .ok dst) :
    d.rebuild m g .edgeBundle first second =
      d.listing m directory >>= fun l => d.readRows m .edge l >>= fun x =>
        EdgeBundle.ofRows src dst x.1 >>= fun eb =>
          .ok (.edgeBundle eb, ⟨g, .edgeBundle, x.1.length, x.2, directory⟩) := by
  unfold rebuild
  rw [hd]
  simp only [h₁, h₂]
  rfl

/-- What was written is read, and the ends of the edges are looked up. -/
theorem Holds.rebuild_edgeBundle (h : d.Holds g ⟨.edge, rows⟩) (he : m.Faithful)
    (hm : d.config.marker ≠ partFileName 0) (h₁ : d.store.dependency first = .ok src)
    (h₂ : d.store.dependency second = .ok dst) :
    d.rebuild m g .edgeBundle first second =
      if d.TooLong g then .error (.io .nameTooLong)
      else (EdgeBundle.ofRows src dst rows).map fun eb =>
        (.edgeBundle eb, ⟨g, .edgeBundle, rows.length, 1, d.place g⟩) := by
  rw [UnorderedDisk.rebuild_edgeBundle h.shardDirectory_eq h₁ h₂]
  exact h.read_bind he hm fun x => EdgeBundle.ofRows src dst x.1 >>= fun eb =>
    .ok (Entity.edgeBundle eb, Summary.mk g .edgeBundle x.1.length x.2 (d.place g))

/-- **An edge bundle that was written against one pair of vertex sets and is read against another one.** If the path of
the data file is not too long, reading fails with an invalid reference iff an edge is lost, and names the missing id of
the first such edge, that of its source if both are missing. Otherwise the bundle that is installed has the same edges
in the same order, between vertices with the same external ids. -/
theorem internalize_edgeBundle (hc : d.config.fault? = none) (hm : d.config.marker ≠ partFileName 0)
    (hb : d.store.get? g = some (.edgeBundle eb)) (h₁ : d.store.dependency first = .ok src)
    (h₂ : d.store.dependency second = .ok dst)
    (hf : d.FreeName g name) (hw : d.externalizeAs refused name g first second = (after, .ok summary))
    (hu : after.Untouched disk g) (he : m.Faithful)
    (h₁' : disk.store.dependency first' = .ok src') (h₂' : disk.store.dependency second' = .ok dst') :
    (disk.TooLong g →
      disk.internalizeOn m g .edgeBundle first' second' = (disk, .error (.io .nameTooLong))) ∧
    (¬ disk.TooLong g →
      ((∃ vs id, (disk.internalizeOn m g .edgeBundle first' second').2 = .error (.invalidReference vs id)) ↔
        ∃ k, eb.Loses src.vertices dst.vertices src'.vertices dst'.vertices k) ∧
      (∀ k, (∀ l, l < k → ¬ eb.Loses src.vertices dst.vertices src'.vertices dst'.vertices l) →
        (∀ id, eb.Strands Edge.src src.vertices src'.vertices k id →
          disk.internalizeOn m g .edgeBundle first' second' =
            (disk, .error (.invalidReference src'.guid id))) ∧
        (∀ id, eb.Strands Edge.dst dst.vertices dst'.vertices k id →
          (∀ id, ¬ eb.Strands Edge.src src.vertices src'.vertices k id) →
          disk.internalizeOn m g .edgeBundle first' second' =
            (disk, .error (.invalidReference dst'.guid id)))) ∧
      ((∀ k, ¬ eb.Loses src.vertices dst.vertices src'.vertices dst'.vertices k) → ∃ eb',
        disk.internalizeOn m g .edgeBundle first' second' =
          ({ disk with store := disk.store.install g (.edgeBundle eb') },
            .ok ⟨g, .edgeBundle, eb.size, 1, disk.place g⟩) ∧
        eb.MovedTo src.vertices dst.vertices src'.vertices dst'.vertices eb')) := by
  obtain ⟨x, block, hx, hblock, hafter, -, hholds⟩ := holds_of_externalize hc hf hw
  rw [hb] at hx
  cases hx
  obtain ⟨s, t, rows, hs, ht, hrows, rfl⟩ := externalRows_edgeBundle hblock
  rw [h₁] at hs
  rw [h₂] at ht
  cases hs
  cases ht
  have hmarker : disk.config.marker ≠ partFileName 0 := by rw [hu.config, hafter]; exact hm
  have hread := (hholds.frame hu).rebuild_edgeBundle he hmarker h₁' h₂'
  have hcount : rows.length = eb.size := by
    rw [(EdgeBundle.externalRows_ok hrows).1, List.length_map, Array.length_toList, EdgeBundle.size]
  refine ⟨fun hlong => ?_, fun hlong => ?_⟩
  · rw [if_pos hlong] at hread
    exact internalize_of_rebuild_error hread
  rw [if_neg hlong] at hread
  have hsrc : ∀ k, (∀ l, l < k → ¬ eb.Loses src.vertices dst.vertices src'.vertices dst'.vertices l) →
      ∀ id, eb.Strands Edge.src src.vertices src'.vertices k id →
      disk.internalizeOn m g .edgeBundle first' second' = (disk, .error (.invalidReference src'.guid id)) := by
    intro k hbefore id hstrand
    rw [EdgeBundle.ofRows_of_strand_src hrows hstrand hbefore] at hread
    exact internalize_of_rebuild_error hread
  have hdst : ∀ k, (∀ l, l < k → ¬ eb.Loses src.vertices dst.vertices src'.vertices dst'.vertices l) →
      ∀ id, eb.Strands Edge.dst dst.vertices dst'.vertices k id →
      (∀ id, ¬ eb.Strands Edge.src src.vertices src'.vertices k id) →
      disk.internalizeOn m g .edgeBundle first' second' = (disk, .error (.invalidReference dst'.guid id)) := by
    intro k hbefore id hstrand hno
    rw [EdgeBundle.ofRows_of_strand_dst hrows hstrand hno hbefore] at hread
    exact internalize_of_rebuild_error hread
  have hmoved : (∀ k, ¬ eb.Loses src.vertices dst.vertices src'.vertices dst'.vertices k) → ∃ eb',
      disk.internalizeOn m g .edgeBundle first' second' =
        ({ disk with store := disk.store.install g (.edgeBundle eb') },
          .ok ⟨g, .edgeBundle, eb.size, 1, disk.place g⟩) ∧
      eb.MovedTo src.vertices dst.vertices src'.vertices dst'.vertices eb' := by
    intro hno
    obtain ⟨eb', hb', hmoved⟩ := EdgeBundle.ofRows_of_no_loss hrows hno
    rw [hb', hcount] at hread
    exact ⟨eb', internalize_of_rebuild_ok hread, hmoved⟩
  refine ⟨invalidReference_iff_of_first ?_ ?_, fun k hbefore => ⟨hsrc k hbefore, hdst k hbefore⟩, hmoved⟩
  · intro k hlost hbefore
    by_cases hs : ∃ id, eb.Strands Edge.src src.vertices src'.vertices k id
    · obtain ⟨id, hs⟩ := hs
      exact ⟨_, id, congrArg Prod.snd (hsrc k hbefore id hs)⟩
    · push Not at hs
      obtain ⟨id, hlost⟩ := hlost
      exact ⟨_, id, congrArg Prod.snd (hdst k hbefore id (hlost.resolve_left (hs id)) hs)⟩
  · intro hno
    obtain ⟨eb', hok, -⟩ := hmoved hno
    exact ⟨_, congrArg Prod.snd hok⟩

/-- A disk with an edge bundle, and with two vertex sets that have the same ids in different orders. -/
def edgeDisk : UnorderedDisk :=
  new {} (((Store.empty.install ⟨"v"⟩ (.vertexSet (.ofIds #[7, 8]))).install ⟨"w"⟩
    (.vertexSet (.ofIds #[8, 7]))).install ⟨"e"⟩
    (.edgeBundle ⟨#[⟨1, 0, 1⟩]⟩))

theorem internalize_edgeBundle_reordered : ∃ after eb,
    edgeDisk.externalize ⟨"e"⟩ (some ⟨"v"⟩) (some ⟨"v"⟩) =
      (after, .ok ⟨⟨"e"⟩, .edgeBundle, 1, 1, ⟨"data/unordered/e"⟩⟩) ∧
    after.internalize ⟨"e"⟩ .edgeBundle (some ⟨"w"⟩) (some ⟨"v"⟩) =
      ({ after with store := after.store.install ⟨"e"⟩ (.edgeBundle eb) },
        .ok ⟨⟨"e"⟩, .edgeBundle, 1, 1, after.place ⟨"e"⟩⟩) ∧
    EdgeBundle.MovedTo ⟨#[⟨1, 0, 1⟩]⟩ (.ofIds #[7, 8]) (.ofIds #[7, 8]) (.ofIds #[8, 7]) (.ofIds #[7, 8]) eb := by
  obtain ⟨after, hw⟩ := externalize_of_toOption
    (by decide +kernel : (edgeDisk.externalize ⟨"e"⟩ (some ⟨"v"⟩) (some ⟨"v"⟩)).2.toOption =
      some ⟨⟨"e"⟩, .edgeBundle, 1, 1, ⟨"data/unordered/e"⟩⟩)
  obtain ⟨-, -, -, -, -, hafter, -⟩ := externalizeAs_ok hw
  have hstore : after.store = edgeDisk.store := by rw [hafter]
  have hb : edgeDisk.store.get? ⟨"e"⟩ = some (.edgeBundle ⟨#[⟨1, 0, 1⟩]⟩) := rfl
  have hs : edgeDisk.store.dependency (some ⟨"v"⟩) = .ok ⟨⟨"v"⟩, .ofIds #[7, 8]⟩ := rfl
  have ht : edgeDisk.store.dependency (some ⟨"w"⟩) = .ok ⟨⟨"w"⟩, .ofIds #[8, 7]⟩ := rfl
  have hshort : ¬ after.TooLong ⟨"e"⟩ := by
    have hconfig : after.config = edgeDisk.config := by rw [hafter]
    rw [TooLong, dataFile, place, hconfig]
    decide +kernel
  have hread :=
    (internalize_edgeBundle rfl (by decide +kernel) hb hs hs (freeName_freshStagingName _ _) hw
      (Untouched.refl after ⟨"e"⟩)
    Machine.reliable_default.toFaithful (by rw [hstore, ht]) (by rw [hstore, hs])).2 hshort
  have hids : ∀ id ∈ #[7, 8], id ∈ #[(8 : Int64), 7] := by
    intro id hid
    simpa [or_comm] using hid
  obtain ⟨eb, heb, hmoved⟩ := hread.2.2 fun k hlost => by
    obtain ⟨id, ⟨e, -, hid, hmiss⟩ | ⟨e, -, hid, hmiss⟩⟩ := hlost
    · exact hmiss (hids id (VertexSet.mem_of_externalId? hid))
    · exact hmiss (VertexSet.mem_of_externalId? hid)
  exact ⟨after, eb, hw, heb, hmoved⟩

/-- A disk with an edge bundle under a long guid, and with a vertex set. -/
def longEdgeDisk : UnorderedDisk :=
  new { root := padded 3829 }
    ((Store.empty.install ⟨"v"⟩ (.vertexSet (.ofIds #[7, 8]))).install longGuid (.edgeBundle ⟨#[⟨1, 0, 1⟩]⟩))

/-- **No edge is lost, and yet the edge bundle cannot be read** in the place where it was written. -/
theorem edgeBundle_with_long_guid : ∃ after summary,
    longEdgeDisk.externalize longGuid (some ⟨"v"⟩) (some ⟨"v"⟩) = (after, .ok summary) ∧
    (∀ k, ¬ EdgeBundle.Loses ⟨#[⟨1, 0, 1⟩]⟩ (.ofIds #[7, 8]) (.ofIds #[7, 8]) (.ofIds #[7, 8]) (.ofIds #[7, 8]) k) ∧
    after.internalize longGuid .edgeBundle (some ⟨"v"⟩) (some ⟨"v"⟩) = (after, .error (.io .nameTooLong)) := by
  have hne : longGuid ≠ ⟨"v"⟩ := fun h => lettered_ne (n := 255) (by decide) (congrArg Guid.text h)
  have he : longEdgeDisk.store.get? longGuid = some (.edgeBundle ⟨#[⟨1, 0, 1⟩]⟩) := by
    rw [longEdgeDisk, new, Store.get?_install, if_pos rfl]
  have hs : longEdgeDisk.store.dependency (some ⟨"v"⟩) = .ok ⟨⟨"v"⟩, .ofIds #[7, 8]⟩ := by
    apply Store.dependency_of_get?
    rw [longEdgeDisk, new, Store.get?_install, if_neg hne, Store.get?_install, if_pos rfl]
  have hb : (Entity.edgeBundle ⟨#[⟨1, 0, 1⟩]⟩).externalRows longEdgeDisk.store (some ⟨"v"⟩) (some ⟨"v"⟩) =
      .ok ⟨.edge, [⟨1, 7, 8⟩]⟩ := by
    simp only [Entity.externalRows, hs]
    rfl
  have hroot : longEdgeDisk.config.root = padded 3829 := rfl
  have hempty : longEdgeDisk.files = .empty := rfl
  have hchecked : longEdgeDisk.config.fault? = none := rfl
  obtain ⟨after, summary, hw, hafter, hholds, hlong⟩ := externalize_longGuid hroot hempty hchecked rfl he hb
  have hconfig : after.config = longEdgeDisk.config := by rw [hafter]
  have hstore : after.store = longEdgeDisk.store := by rw [hafter]
  have hread := hholds.rebuild_edgeBundle Machine.reliable_default.toFaithful
    (by rw [hconfig]; decide +kernel) (by rw [hstore, hs]) (by rw [hstore, hs])
  rw [if_pos hlong] at hread
  refine ⟨after, summary, hw, fun k hlost => ?_, internalize_of_rebuild_error hread⟩
  obtain ⟨id, ⟨e, -, hid, hmiss⟩ | ⟨e, -, hid, hmiss⟩⟩ := hlost
  · exact hmiss (VertexSet.mem_of_externalId? hid)
  · exact hmiss (VertexSet.mem_of_externalId? hid)

end UnorderedDisk

end GraphDisk
