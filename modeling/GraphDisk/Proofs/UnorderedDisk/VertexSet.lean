import GraphDisk.Proofs.Condensed
import GraphDisk.Proofs.UnorderedDisk.Builder
import GraphDisk.Proofs.UnorderedDisk.LongPath

/-!
# Vertex sets on disk

A vertex set that was written and is read again numbers the same ids in the same way if the last position of an id
counts, or if no id occurs twice; if duplicates are refused, reading fails with the first id that occurs again
(`UnorderedDisk.internalize_vertexSet`). Whether there is such an id is decided by counting the ids that the vertex set
maps to a position, and which one it is by looking for a position that its id is not mapped to.
-/

namespace GraphDisk

namespace VertexSet

variable {policy : DuplicatePolicy} {g : Guid} {ids : Array Int64} {x : Int64}

theorem ids_externalRows (vs : VertexSet) : (vs.externalRows.map VertexRow.id).toArray = vs.ids := by
  have hid : VertexRow.id ∘ VertexRow.mk = id := rfl
  rw [externalRows, List.map_map, hid, List.map_id, Array.toArray_toList]

/-- The rows of a vertex set are read as that vertex set, unless a duplicate is refused. -/
theorem ofRows_externalRows (h : policy = .lastWriteWins ∨ ids.toList.Nodup) :
    ofRows policy g (ofIds ids).externalRows = .ok (ofIds ids) := by
  have hids : ((ofIds ids).externalRows.map VertexRow.id).toArray = ids := ids_externalRows (ofIds ids)
  refine ofRows_eq_ok.mpr ⟨by rw [hids], fun hreject => ?_⟩
  rcases h with rfl | h
  · cases hreject
  · rwa [← hids] at h

theorem ofRows_externalRows_of_repeat (h : (ofIds ids).firstDuplicate? = some x) :
    ofRows .reject g (ofIds ids).externalRows = .error (.duplicateExternalId g x) := by
  unfold ofRows
  rw [ids_externalRows, show (ofIds ids).ids = ids from rfl]
  simp only [h]

end VertexSet

namespace UnorderedDisk

variable {d disk after : UnorderedDisk} {refused : Refusals} {g : Guid} {first second : Option Guid} {summary : Summary}
  {m : Machine} {ids : Array Int64}

/-- **A vertex set that was written and is read again.** If the path of the data file is not too long, the ids come back
in the same order, and the ordered index of an id is its last position. If duplicates are refused, reading succeeds iff
no id occurs twice, so that ordered indices and external ids are inverse to each other; otherwise it fails with the id
at the first position whose id occurs again, and changes nothing. -/
theorem internalize_vertexSet (hc : d.config.fault? = none) (hm : d.config.marker ≠ partFileName 0)
    (hb : d.store.get? g = some (.vertexSet (.ofIds ids)))
    (hf : d.FreeName g name) (hw : d.externalizeAs refused name g first second = (after, .ok summary))
    (hu : after.Untouched disk g) (he : m.Faithful) (first' second' : Option Guid) :
    (disk.TooLong g →
      disk.internalizeOn m g .vertexSet first' second' = (disk, .error (.io .nameTooLong))) ∧
    (¬ disk.TooLong g →
      (d.config.duplicates = .lastWriteWins → ∃ vs,
        disk.internalizeOn m g .vertexSet first' second' =
          ({ disk with store := disk.store.install g (.vertexSet vs) },
            .ok ⟨g, .vertexSet, ids.size, 1, disk.place g⟩) ∧
        vs.ids = ids ∧ ∀ id j, vs.orderedIndex? id = some j ↔ IsLast ids.toList id j) ∧
      (d.config.duplicates = .reject → ids.toList.Nodup → ∃ vs,
        disk.internalizeOn m g .vertexSet first' second' =
          ({ disk with store := disk.store.install g (.vertexSet vs) },
            .ok ⟨g, .vertexSet, ids.size, 1, disk.place g⟩) ∧
        vs.ids = ids ∧ (∀ i id, vs.externalId? i = some id ↔ vs.orderedIndex? id = some i) ∧
        ∀ i, (∃ id, vs.externalId? i = some id) ↔ i < ids.size) ∧
      (d.config.duplicates = .reject → ¬ ids.toList.Nodup → ∃ id i, IsFirstRepeat ids.toList id i ∧
        disk.internalizeOn m g .vertexSet first' second' = (disk, .error (.duplicateExternalId g id)))) := by
  obtain ⟨x, block, hx, hblock, hafter, -, hholds⟩ := holds_of_externalize hc hf hw
  rw [hb] at hx
  cases hx
  cases hblock
  have hconfig : disk.config = d.config := by rw [hu.config, hafter]
  have hmarker : disk.config.marker ≠ partFileName 0 := by rw [hconfig]; exact hm
  have hread : disk.rebuild m g .vertexSet first' second' = _ := (hholds.frame hu).rebuild_eq he hmarker
  have hcount : (VertexSet.ofIds ids).externalRows.length = ids.size := by
    rw [VertexSet.externalRows, List.length_map, Array.length_toList, VertexSet.ofIds]
  have hbuild : disk.builder g first' second' .vertex =
      .ok fun rows => (VertexSet.ofRows d.config.duplicates g rows).map .vertexSet := by rw [← hconfig]; rfl
  rw [hbuild] at hread
  simp only [bind, Except.bind, hcount] at hread
  have hinstalled : ¬ disk.TooLong g → (d.config.duplicates = .lastWriteWins ∨ ids.toList.Nodup) →
      disk.internalizeOn m g .vertexSet first' second' =
        ({ disk with store := disk.store.install g (.vertexSet (.ofIds ids)) },
          .ok ⟨g, .vertexSet, ids.size, 1, disk.place g⟩) := by
    intro hlong h
    rw [if_neg hlong, VertexSet.ofRows_externalRows h] at hread
    exact internalize_of_rebuild_ok hread
  refine ⟨fun hlong => ?_, fun hlong => ⟨fun hp => ?_, fun _ hn => ?_, fun hp hn => ?_⟩⟩
  · rw [if_pos hlong] at hread
    exact internalize_of_rebuild_error hread
  · exact ⟨_, hinstalled hlong (Or.inl hp), rfl, fun id j => VertexSet.orderedIndex?_eq_some_iff_isLast⟩
  · refine ⟨_, hinstalled hlong (Or.inr hn), rfl, fun i id => ?_, fun i => ?_⟩
    · exact ⟨VertexSet.orderedIndex?_externalId? hn, VertexSet.externalId?_orderedIndex?⟩
    · constructor
      · rintro ⟨id, hid⟩
        exact VertexSet.lt_size_of_externalId? hid
      · exact fun hi => ⟨ids[i], Array.getElem?_eq_getElem hi⟩
  · obtain ⟨id, hid⟩ : ∃ id, (VertexSet.ofIds ids).firstDuplicate? = some id := by
      rw [← Option.ne_none_iff_exists']
      exact fun h => hn (VertexSet.firstDuplicate?_eq_none.mp h)
    obtain ⟨i, hi⟩ := VertexSet.firstDuplicate?_eq_some.mp hid
    rw [if_neg hlong, hp, VertexSet.ofRows_externalRows_of_repeat hid] at hread
    exact ⟨id, i, hi, internalize_of_rebuild_error hread⟩

/-- A disk with a vertex set in which an id occurs twice. -/
def twiceDisk (duplicates : DuplicatePolicy) : UnorderedDisk :=
  new { duplicates } (Store.empty.install ⟨"v"⟩ (.vertexSet (.ofIds #[7, 8, 7])))

/-- An id that occurs twice is found at its last position, or is refused. -/
theorem internalize_vertexSet_twice :
    (∃ after vs, (twiceDisk .lastWriteWins).externalize ⟨"v"⟩ none none =
        (after, .ok ⟨⟨"v"⟩, .vertexSet, 3, 1, ⟨"data/unordered/v"⟩⟩) ∧
      after.internalize ⟨"v"⟩ .vertexSet none none =
        ({ after with store := after.store.install ⟨"v"⟩ (.vertexSet vs) },
          .ok ⟨⟨"v"⟩, .vertexSet, 3, 1, after.place ⟨"v"⟩⟩) ∧
      vs.ids = #[7, 8, 7] ∧ vs.orderedIndex? 7 = some 2) ∧
    ∃ after, (twiceDisk .reject).externalize ⟨"v"⟩ none none =
        (after, .ok ⟨⟨"v"⟩, .vertexSet, 3, 1, ⟨"data/unordered/v"⟩⟩) ∧
      after.internalize ⟨"v"⟩ .vertexSet none none = (after, .error (.duplicateExternalId ⟨"v"⟩ 7)) := by
  have hshort : ∀ policy (after : UnorderedDisk), after = { twiceDisk policy with files := after.files } →
      ¬ after.TooLong ⟨"v"⟩ := by
    intro policy after hafter
    have hroot : after.config.root = ⟨"data/unordered"⟩ := by rw [hafter]; rfl
    rw [TooLong, dataFile, place, hroot]
    decide +kernel
  constructor
  · obtain ⟨after, hw⟩ := externalize_of_toOption
      (by decide +kernel : ((twiceDisk .lastWriteWins).externalize ⟨"v"⟩ none none).2.toOption =
        some ⟨⟨"v"⟩, .vertexSet, 3, 1, ⟨"data/unordered/v"⟩⟩)
    obtain ⟨-, -, -, -, -, hafter, -⟩ := externalizeAs_ok hw
    have hread := (internalize_vertexSet rfl (by decide +kernel) rfl (freeName_freshStagingName _ _) hw
      (Untouched.refl after ⟨"v"⟩) Machine.reliable_default.toFaithful none none).2
      (hshort _ after hafter)
    obtain ⟨vs, hvs, hids, hindex⟩ := hread.1 rfl
    refine ⟨after, vs, hw, hvs, hids, (hindex 7 2).mpr ⟨rfl, fun k hk hlater => ?_⟩⟩
    have hlt : k < 3 := (List.getElem?_eq_some_iff.mp hlater).1
    omega
  · obtain ⟨after, hw⟩ := externalize_of_toOption
      (by decide +kernel : ((twiceDisk .reject).externalize ⟨"v"⟩ none none).2.toOption =
        some ⟨⟨"v"⟩, .vertexSet, 3, 1, ⟨"data/unordered/v"⟩⟩)
    obtain ⟨-, -, -, -, -, hafter, -⟩ := externalizeAs_ok hw
    have hread := (internalize_vertexSet rfl (by decide +kernel) rfl (freeName_freshStagingName _ _) hw
      (Untouched.refl after ⟨"v"⟩) Machine.reliable_default.toFaithful none none).2
      (hshort _ after hafter)
    obtain ⟨id, i, hfirst, herror⟩ := hread.2.2 rfl (by decide)
    -- the id at position 0 occurs again at position 2
    have hi : i = 0 := by
      rcases Nat.eq_zero_or_pos i with h | h
      · exact h
      · exact absurd ⟨rfl, 2, by decide, rfl⟩ (hfirst.2 0 h 7)
    obtain rfl : 7 = id := Option.some.inj (by rw [← hfirst.1.1, hi]; rfl)
    exact ⟨after, hw, herror⟩

/-- A disk with a vertex set under a long guid. -/
def longVertexDisk : UnorderedDisk :=
  new { root := padded 3829 } (Store.empty.install longGuid (.vertexSet (.ofIds #[7])))

/-- **No id occurs twice, and yet the vertex set cannot be read** in the place where it was written. -/
theorem vertexSet_with_long_guid : ∃ after summary,
    longVertexDisk.config.fault? = none ∧ longVertexDisk.config.marker ≠ partFileName 0 ∧
    longVertexDisk.config.duplicates = .lastWriteWins ∧
    longVertexDisk.store.get? longGuid = some (.vertexSet (.ofIds #[7])) ∧
    longVertexDisk.externalize longGuid none none = (after, .ok summary) ∧
    after.internalize longGuid .vertexSet none none = (after, .error (.io .nameTooLong)) := by
  have hroot : longVertexDisk.config.root = padded 3829 := rfl
  have hchecked : longVertexDisk.config.fault? = none := rfl
  have hb : longVertexDisk.store.get? longGuid = some (.vertexSet (.ofIds #[7])) := by
    unfold longVertexDisk new
    rw [Store.get?_install, if_pos rfl]
  have hrows : (Entity.vertexSet (.ofIds #[7])).externalRows longVertexDisk.store none none =
      .ok ⟨.vertex, [⟨7⟩]⟩ := rfl
  obtain ⟨after, summary, hw, hafter, hholds, hlong⟩ := externalize_longGuid hroot rfl hchecked rfl hb hrows
  have hm : longVertexDisk.config.marker ≠ partFileName 0 := by decide +kernel
  have hmarker : after.config.marker ≠ partFileName 0 := by rw [hafter]; exact hm
  have hread : after.rebuild {} longGuid .vertexSet none none = _ :=
    hholds.rebuild_eq Machine.reliable_default.toFaithful hmarker
  simp only [if_pos hlong] at hread
  exact ⟨after, summary, hchecked, hm, rfl, hb, hw, internalize_of_rebuild_error hread⟩

end UnorderedDisk

end GraphDisk
