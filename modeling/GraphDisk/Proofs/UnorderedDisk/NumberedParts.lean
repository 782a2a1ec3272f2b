import GraphDisk.Proofs.Shard.SavedRows
import GraphDisk.Proofs.ShardDirectory.PartNames

/-!
# Shard directories of numbered parts

Rows may be written part by part, each part into the data file of its number. Writing one adds one entry to the
directory, and so the directory has, once all are written, an entry for each part and what was there before
(`Part.Written.within`). The parts are read in the order of their names (`UnorderedDisk.Numbered.laysOut`). That is the
order of their numbers iff no number is above what a greater one begins with, in as many digits (`Part.byName_eq_self`):
so it is if all names are of one length, but not with `99999` and `100000`. What that means for the entity that is read
is put together in `UnorderedDisk.numbered_parts`.
-/

namespace GraphDisk

/-- Putting in an entry of a new name adds it. -/
theorem Directory.insert_perm {name : String} {node : Node} : ∀ {d : Directory}, name ∉ d.map Prod.fst →
    (Directory.insert name node d).Perm ((name, node) :: d)
  | [], _ => List.Perm.refl _
  | (k, n) :: d, h => by
    obtain ⟨hk, hd⟩ := not_or.mp fun hm => h (List.mem_cons.mpr hm)
    rw [Directory.insert, if_neg (show name ≠ k from hk)]
    split
    · exact List.Perm.refl _
    · exact ((insert_perm hd).cons _).trans (List.Perm.swap _ _ _)

/-- **A block of rows with a number.** -/
structure Part (s : Schema) where
  index : Nat
  rows : List s.Row

variable {s : Schema} {q : Path} {r : Location} {fs after : FileSystem} {p : Part s} {parts : List (Part s)}

namespace Part

/-- The name of the data file. -/
def name (p : Part s) : String := partFileName p.index

/-- The data file in its directory. -/
def entry (p : Part s) : String × Node := (p.name, .file (.table (Table.holding s p.rows)))

/-- **Parts are written** into a directory one after the other, each by threads of its own. -/
inductive Written (q : Path) : FileSystem → List (Part s) → FileSystem → Prop
  | nothing (fs : FileSystem) : Written q fs [] fs
  | more {fs between after : FileSystem} {codec : CodecConfig} {order : Schedule} {noThreads : Option IoFault}
    {index : Nat} {rows : RowBuffer s} {written : ShardMeta} {parts : List (Part s)} : order.Fair →
    fs.writeShardBy codec order (q.entry (partFileName index)) rows noThreads = (between, .ok written) →
    Written q between parts after → Written q fs (⟨index, rows.toList⟩ :: parts) after

/-- **Writing one part** puts its file where there was nothing. -/
theorem put_of_writeShardBy {codec : CodecConfig} {order : Schedule} {noThreads : Option IoFault} {index : Nat}
    {rows : RowBuffer s} {written : ShardMeta} (hf : order.Fair) (ho : fs.Opens q r)
    (hfree : fs.node? (r ++ [partFileName index]) = none)
    (h : fs.writeShardBy codec order (q.entry (partFileName index)) rows noThreads = (after, .ok written)) :
    fs.Reaches q (partFileName index) r ∧
      after = fs.put r (partFileName index) (.file (.table (Table.holding s rows.toList))) := by
  have htable : rows.table = .ok (Table.holding s rows.toList) := Table.ofRows_eq s rows.toList
  have hlink : ∀ target, fs.shape? (r ++ [partFileName index]) ≠ some (.link target) := by
    intro target ht
    rw [FileSystem.shape?, hfree] at ht
    cases ht
  rw [FileSystem.writeShardBy_eq hf (FileSystem.started_of_writeShardBy h)] at h
  unfold FileSystem.writeShard at h
  rw [htable] at h
  simp only [bind, Except.bind] at h
  cases hw : fs.writeFile (q.entry (partFileName index)) (.table (Table.holding s rows.toList)) with
  | error fault =>
    rw [hw] at h
    cases h
  | ok left =>
    rw [hw] at h
    cases h
    exact FileSystem.writeFile_ok ho (isEntryName_part index) hlink hw

/-- **Each part that was written is an entry of the directory**, which otherwise has the entries that it had. -/
theorem Written.within (h : Written q fs parts after) (ho : fs.Opens q r) (hn : (parts.map Part.name).Nodup)
    (hfree : ∀ p ∈ parts, fs.node? (r ++ [p.name]) = none) :
    FileSystem.Within r (parts.map Part.name) fs after ∧ after.Opens q r ∧
      (after.entriesAt r).Perm (parts.map Part.entry ++ fs.entriesAt r) ∧
      ∀ p ∈ parts, after.find (q.entry p.name) = .ok p.entry.2 := by
  induction h with
  | nothing fs => exact ⟨.refl _ _ _, ho, List.Perm.refl _, by simp⟩
  | @more fs between after codec order noThreads index rows written parts hf hwrite _ ih =>
    obtain ⟨hnew, hn⟩ := List.nodup_cons.mp hn
    have hnew : partFileName index ∉ parts.map Part.name := hnew
    obtain ⟨hthis, hfree⟩ := List.forall_mem_cons.mp hfree
    have hthis : fs.node? (r ++ [partFileName index]) = none := hthis
    obtain ⟨hreach, hbetween⟩ := put_of_writeShardBy hf ho hthis hwrite
    have hd := ho.directory
    have hput : FileSystem.Within r [partFileName index] fs between := by
      rw [hbetween]
      exact .put hd _ _
    have ho' := ho.mono (hput.extends_of_free (List.forall_mem_singleton.mpr hthis)) hput.working
    obtain ⟨hwithin, hopens, hperm, hfound⟩ := ih ho' hn fun p hp => by
      have hne : p.name ∉ [partFileName index] := fun hm =>
        hnew (List.mem_map.mpr ⟨p, hp, List.mem_singleton.mp hm⟩)
      rw [hput.entry hne, hfree p hp]
    have hsame : after.node? (r ++ [partFileName index]) = some (.file (.table (Table.holding s rows.toList))) := by
      rw [hwithin.entry hnew, hbetween, FileSystem.node?_put_self hd]
    refine ⟨(hput.mono (by simp [Part.name])).trans (hwithin.mono (by simp)), hopens, ?_,
      List.forall_mem_cons.mpr ⟨?_, hfound⟩⟩
    · have hname : partFileName index ∉ (fs.entriesAt r).map Prod.fst := fun hm => by
        obtain ⟨x, hx⟩ := (FileSystem.mem_namesAt hd).mp hm
        rw [hthis] at hx
        cases hx
      rw [hbetween, FileSystem.entriesAt_put hd] at hperm
      exact (hperm.trans ((Directory.insert_perm hname).append_left _)).trans List.perm_middle
    · exact FileSystem.find_entry (isEntryName_part index) ⟨hreach.check, hopens, hreach.short⟩ hsame
        (by simp [Part.entry, Node.shape])

/-- Parts can be written wherever the file system takes their paths. -/
theorem exists_written (codec : CodecConfig) {order : Schedule} (hf : order.Fair) :
    ∀ {parts : List (Part s)} {fs : FileSystem},
    fs.Opens q r → (parts.map Part.name).Nodup → (∀ p ∈ parts, fs.node? (r ++ [p.name]) = none) →
    (∀ p ∈ parts, (q.entry p.name).check = .ok () ∧ p.name.utf8ByteSize ≤ maxNameSize) →
      ∃ after, Written q fs parts after
  | [], fs, _, _, _, _ => ⟨fs, .nothing fs⟩
  | p :: parts, fs, ho, hn, hfree, hpaths => by
    obtain ⟨hnew, hn⟩ := List.nodup_cons.mp hn
    obtain ⟨hthis, hfree⟩ := List.forall_mem_cons.mp hfree
    obtain ⟨⟨hcheck, hshort⟩, hpaths⟩ := List.forall_mem_cons.mp hpaths
    have hcreated := FileSystem.writeFile_entry .empty (isEntryName_part p.index) ⟨hcheck, ho, hshort⟩ fun x hx => by
      rw [show fs.node? (r ++ [partFileName p.index]) = none from hthis] at hx
      cases hx
    obtain ⟨between, hshard, -⟩ := FileSystem.writeShard_eq_ok hcreated (⟨p.rows.toArray⟩ : RowBuffer s)
    have hwrite : fs.writeShardBy codec order (q.entry (partFileName p.index)) (⟨p.rows.toArray⟩ : RowBuffer s) =
        (between, .ok ⟨s, p.rows.toArray.size, Content.tableSize⟩) := by
      rw [FileSystem.writeShardBy_eq hf fun _ => rfl, hshard]
      rfl
    have hone := Written.more hf hwrite (.nothing between)
    obtain ⟨hwithin, ho', -⟩ := hone.within ho (by simp) (List.forall_mem_singleton.mpr hthis)
    have hfree' : ∀ p' ∈ parts, between.node? (r ++ [p'.name]) = none := fun p' hp' => by
      rw [hwithin.entry fun hm => hnew (List.mem_map.mpr ⟨p', hp', List.mem_singleton.mp hm⟩), hfree p' hp']
    obtain ⟨after, hafter⟩ := exists_written codec hf ho' hn hfree' hpaths
    exact ⟨after, .more hf hwrite hafter⟩

/-! ## The order of the names -/

/-- The parts in the order in which their files are read. -/
def byName (parts : List (Part s)) : List (Part s) := parts.mergeSort fun p p' => p.name ≤ p'.name

/-- **Numbers whose order is that of the names**: each is at most what the leading digits of a greater one are, as many
as the lesser one has. -/
def Aligned (parts : List (Part s)) : Prop :=
  parts.Pairwise fun p p' => p.index ≤ p'.index / 10 ^ (partWidth p'.index - partWidth p.index)

theorem byName_perm (parts : List (Part s)) : (byName parts).Perm parts := List.mergeSort_perm _ _

theorem byName_sorted (parts : List (Part s)) : (byName parts).Pairwise fun p p' => p.name ≤ p'.name := by
  refine (List.pairwise_mergeSort (fun a b c => ?_) (fun a b => ?_) _).imp of_decide_eq_true
  · simpa using String.le_trans
  · simpa using String.le_total a.name b.name

section Ascending

variable (h : (parts.map Part.index).Pairwise (· < ·))
include h

theorem nodup_names : (parts.map Part.name).Nodup := by
  rw [List.Nodup, List.pairwise_map] at *
  exact h.imp fun hlt heq => Nat.ne_of_lt hlt (partFileName_injective heq)

/-- The parts in the order of their names are known by being in that order. -/
theorem byName_eq {arranged : List (Part s)} (hp : arranged.Perm parts)
    (hs : arranged.Pairwise fun p p' => p.name ≤ p'.name) :
    byName parts = arranged := by
  refine ((byName_perm parts).trans hp.symm).eq_of_pairwise (fun p p' hm hm' hle hge => ?_) (byName_sorted parts) hs
  exact List.inj_on_of_nodup_map (nodup_names h) ((byName_perm parts).mem_iff.mp hm) (hp.mem_iff.mp hm')
    (String.le_antisymm hle hge)

/-- **The files are read in the order of the numbers** iff the numbers are aligned. -/
theorem byName_eq_self : byName parts = parts ↔ Aligned parts := by
  have hname : ∀ {p p' : Part s}, p.index < p'.index → (p.name ≤ p'.name ↔ p.name < p'.name) := by
    intro p p' hlt
    constructor
    · intro hle
      by_contra hnot
      exact Nat.ne_of_lt hlt (partFileName_injective (String.le_antisymm hle (String.not_lt.mp hnot)))
    · exact fun hlt => String.not_lt.mp (String.lt_asymm hlt)
  have haligned : Aligned parts ↔ parts.Pairwise fun p p' => p.name ≤ p'.name := by
    have hlt := List.pairwise_map.mp h
    constructor
    · exact fun ha => (hlt.and ha).imp fun hp => (hname hp.1).mpr ((partFileName_lt_iff hp.1).mpr hp.2)
    · exact fun hs => (hlt.and hs).imp fun hp => (partFileName_lt_iff hp.1).mp ((hname hp.1).mp hp.2)
  rw [haligned]
  constructor
  · intro hsame
    rw [← hsame]
    exact byName_sorted parts
  · exact byName_eq h (List.Perm.refl _)

/-- Names of one length are aligned. -/
theorem aligned_of_partWidth (hw : ∀ p ∈ parts, ∀ p' ∈ parts, partWidth p.index = partWidth p'.index) :
    Aligned parts := by
  rw [List.pairwise_map] at h
  refine h.imp_of_mem fun {p p'} hp hp' hlt => ?_
  rw [hw p hp p' hp', Nat.sub_self, Nat.pow_zero, Nat.div_one]
  exact Nat.le_of_lt hlt

end Ascending

end Part

/-! ## Reading the directory -/

/-- A directory that is listed is one that the path leads to. -/
theorem FileSystem.opens_of_list {entries : Directory} (h : fs.list q = .ok entries) :
    ∃ r, fs.Opens q r ∧ q.check = .ok () ∧ entries = fs.entriesAt r := by
  obtain ⟨x, hx, h⟩ := bind_eq_ok.mp h
  cases x with
  | file content => cases h
  | link target => cases h
  | directory found =>
    cases h
    obtain ⟨r, ho⟩ := opens_of_isDirectory (show fs.isDirectory q = true by rw [isDirectory, hx]; rfl)
    have hc : q.check = .ok () := by
      cases hc : q.check with
      | ok _ => rfl
      | error fault =>
        rw [find_of_check hc] at hx
        cases hx
    rw [find_of_opens ho hc] at hx
    cases hx
    exact ⟨r, ho, hc, rfl⟩

theorem dataNames_append (marker : String) (d d' : Directory) :
    dataNames marker (d ++ d') = dataNames marker d ++ dataNames marker d' := by
  simp [dataNames]

theorem dataNames_parts {marker : String} (h : ∀ p ∈ parts, p.name ≠ marker) :
    dataNames marker (parts.map Part.entry) = parts.map Part.name := by
  have hfiles : (parts.map Part.entry).filter (fun e => e.2.isFile) = parts.map Part.entry :=
    List.filter_eq_self.mpr fun e he => by
      obtain ⟨p, -, rfl⟩ := List.mem_map.mp he
      rfl
  have hnames : (parts.map Part.entry).map Prod.fst = parts.map Part.name := by rw [List.map_map]; rfl
  rw [dataNames, hfiles, hnames, List.filter_eq_self]
  intro n hn
  obtain ⟨p, hp, rfl⟩ := List.mem_map.mp hn
  exact decide_eq_true (h p hp)

namespace UnorderedDisk

variable {d : UnorderedDisk} {g : Guid} {m : Machine}

/-- **Numbered parts in a directory of their own.** Their numbers ascend, they were written in some order, the directory
had no data file before nor anything of the name of a part, and the marker, which no part is named like, is there if it
is asked for. -/
structure Numbered (d : UnorderedDisk) (q : Path) (parts : List (Part s)) (after : FileSystem) : Prop where
  ascending : (parts.map Part.index).Pairwise (· < ·)
  written : ∃ order : List (Part s), order.Perm parts ∧ Part.Written q d.files order after
  fresh : ∃ entries, d.files.list q = .ok entries ∧ dataNames d.config.marker entries = [] ∧
    (∀ p ∈ parts, p.name ∉ d.config.marker :: entries.map Prod.fst) ∧
    (d.config.requireMarker = true → ∃ content, (d.config.marker, Node.file content) ∈ entries)

/-- **The files of numbered parts lay them out** in the order of their names. -/
theorem Numbered.laysOut (h : d.Numbered q parts after) : { d with files := after }.LaysOut s q
    ((Part.byName parts).map fun p : Part s => (p.name, [p.rows])) := by
  obtain ⟨order, horder, hwritten⟩ := h.written
  obtain ⟨entries, hlist, hnone, hfree, hmarked⟩ := h.fresh
  obtain ⟨r, ho, hc, rfl⟩ := FileSystem.opens_of_list hlist
  have hmem : ∀ {p}, p ∈ order ↔ p ∈ parts := horder.mem_iff
  have hnames : (order.map Part.name).Nodup := (horder.map _).nodup_iff.mpr (Part.nodup_names h.ascending)
  have habsent : ∀ p ∈ order, d.files.node? (r ++ [p.name]) = none := by
    intro p hp
    cases hx : d.files.node? (r ++ [p.name]) with
    | none => rfl
    | some x =>
      have hlisted := (FileSystem.mem_namesAt ho.directory).mpr ⟨x, hx⟩
      exact absurd (List.mem_cons_of_mem _ hlisted) (hfree p (hmem.mp hp))
  obtain ⟨-, hopens, hperm, hfound⟩ := hwritten.within ho hnames habsent
  have hlisted : after.list q = .ok (after.entriesAt r) := by
    unfold FileSystem.list
    rw [FileSystem.find_of_opens hopens hc]
    rfl
  have hfiles : ((Part.byName parts).map fun p : Part s => (p.name, [p.rows])).map Prod.fst =
      (Part.byName parts).map Part.name := by
    rw [List.map_map]
    rfl
  refine ⟨⟨after.entriesAt r, hlisted, ?_, fun hrequired => ?_⟩, ?_, fun f hf => ?_⟩
  · have hdata : (dataNames d.config.marker (after.entriesAt r)).Perm (order.map Part.name) := by
      have hall : (dataNames d.config.marker (after.entriesAt r)).Perm _ := dataNames_perm hperm
      rwa [dataNames_append, hnone, List.append_nil, dataNames_parts fun p hp he =>
        hfree p (hmem.mp hp) (List.mem_cons.mpr (Or.inl he))] at hall
    rw [hfiles]
    exact (((Part.byName_perm parts).trans horder.symm).map _).trans hdata.symm
  · obtain ⟨content, hcontent⟩ := hmarked hrequired
    exact ⟨content, hperm.mem_iff.mpr (List.mem_append_right _ hcontent)⟩
  · rw [hfiles, List.pairwise_map]
    exact (Part.byName_sorted parts).imp Text.le_iff_bytes_le.mp
  · obtain ⟨p, hp, rfl⟩ := List.mem_map.mp hf
    exact ⟨_, hfound p (hmem.mpr ((Part.byName_perm parts).mem_iff.mp hp)), Table.laysOut_holding s p.rows⟩

/-- The ids of vertices, part after part. -/
def vertexIds (parts : List (Part .vertex)) : List Int64 := parts.flatMap fun p => p.rows.map VertexRow.id

theorem concatenated_byName (parts : List (Part s)) :
    concatenated ((Part.byName parts).map fun p : Part s => (p.name, [p.rows])) =
      (Part.byName parts).flatMap Part.rows := by
  simp [concatenated, List.flatMap_map]

theorem length_byName (parts : List (Part s)) :
    ((Part.byName parts).map fun p : Part s => (p.name, [p.rows])).length = parts.length := by
  rw [List.length_map, (Part.byName_perm parts).length_eq]

section Reading

variable {first second : Option Guid} (ho : d.config.ordering = .lexicographic)
  (he : m.Reliable)
include ho he

/-- **The directory lists the parts** in the order of their names. -/
theorem Numbered.listing (h : d.Numbered q parts after) :
    ∃ l, { d with files := after }.listing m q = .ok l ∧ l.names = (Part.byName parts).map Part.name ∧
      l.names.Pairwise fun a b => Text.bytes a < Text.bytes b := by
  obtain ⟨l, hl, hnames, -⟩ := listing_of_laysOut h.laysOut ho he.toFaithful
  rw [List.map_map] at hnames
  have hnames : l.names = (Part.byName parts).map Part.name := hnames
  refine ⟨l, hl, hnames, ?_⟩
  have hdistinct : ((Part.byName parts).map Part.name).Nodup :=
    ((Part.byName_perm parts).map _).nodup_iff.mpr (Part.nodup_names h.ascending)
  have hsorted : ((Part.byName parts).map Part.name).Pairwise (· ≤ ·) :=
    List.pairwise_map.mpr (Part.byName_sorted parts)
  rw [hnames]
  refine (hsorted.and hdistinct).imp fun ⟨hle, hne⟩ => ?_
  by_contra hnot
  exact hne (String.le_antisymm hle (Text.le_iff_bytes_le.mpr (List.not_lt.mp hnot)))

theorem Numbered.rowsOf (h : d.Numbered q parts after) :
    { d with files := after }.rowsOf m s q = .ok ((Part.byName parts).flatMap Part.rows, parts.length) := by
  rw [rowsOf_of_laysOut h.laysOut ho he, concatenated_byName, length_byName]

/-- **What is read is made of the rows of the parts**, in the order of their names. -/
theorem Numbered.internalize (h : d.Numbered q parts after) (hq : d.shardDirectory g = .ok q) :
    { d with files := after }.internalizeOn m g s.kind first second =
      match d.entityOf g first second s ((Part.byName parts).flatMap Part.rows) with
      | .error e => ({ d with files := after }, .error e)
      | .ok x => ({ d with files := after, store := d.store.install g x },
          .ok ⟨g, s.kind, ((Part.byName parts).flatMap Part.rows).length, parts.length, q⟩) := by
  have hread : { d with files := after }.internalizeOn m g s.kind first second = _ :=
    internalize_of_laysOut hq h.laysOut ho he
  rw [concatenated_byName, length_byName] at hread
  exact hread

/-- **A vertex set has the ids of the parts**, in the order of their names, if repeats are not refused or there are
none. -/
theorem Numbered.internalize_vertices {parts : List (Part .vertex)} (h : d.Numbered q parts after)
    (hq : d.shardDirectory g = .ok q) (hpolicy : d.config.duplicates = .lastWriteWins ∨ (vertexIds parts).Nodup) :
    { d with files := after }.internalizeOn m g .vertexSet first second =
      ({ d with
          files := after,
          store := d.store.install g (.vertexSet (.ofIds (vertexIds (Part.byName parts)).toArray)) },
        .ok ⟨g, .vertexSet, (vertexIds parts).length, parts.length, q⟩) := by
  have hids : ((Part.byName parts).flatMap Part.rows).map VertexRow.id =
      vertexIds (Part.byName parts) := List.map_flatMap
  have hperm : (vertexIds (Part.byName parts)).Perm (vertexIds parts) := (Part.byName_perm parts).flatMap_right _
  have hlength : ((Part.byName parts).flatMap Part.rows).length = (vertexIds parts).length := by
    rw [← hperm.length_eq, ← hids, List.length_map]
  have hrows : VertexSet.ofRows d.config.duplicates g ((Part.byName parts).flatMap Part.rows) =
      .ok (.ofIds (vertexIds (Part.byName parts)).toArray) := by
    refine VertexSet.ofRows_eq_ok.mpr ⟨by rw [hids], fun hreject => ?_⟩
    rcases hpolicy with hlast | hnodup
    · rw [hlast] at hreject
      cases hreject
    · rw [hids]
      exact hperm.nodup_iff.mpr hnodup
  have hmade : d.entityOf g first second .vertex ((Part.byName parts).flatMap Part.rows) =
      .ok (.vertexSet (.ofIds (vertexIds (Part.byName parts)).toArray)) := by
    unfold entityOf builder Schema.builder
    simp only [bind, Except.bind, hrows]
    rfl
  have hread : { d with files := after }.internalizeOn m g .vertexSet first second = _ := h.internalize ho he hq
  rw [hmade, hlength] at hread
  exact hread

end Reading

/-- **An id has the index of its last place in the last part that has it.** -/
theorem orderedIndex?_vertexIds {parts before behind : List (Part .vertex)} {p : Part .vertex} {id : Int64}
    (hsplit : parts = before ++ p :: behind) (hid : id ∈ p.rows.map VertexRow.id) (hbehind : id ∉ vertexIds behind) :
    ∃ i, IsLast (p.rows.map VertexRow.id) id i ∧
      (VertexSet.ofIds (vertexIds parts).toArray).orderedIndex? id = some ((vertexIds before).length + i) := by
  obtain ⟨i, hi⟩ := exists_isLast hid
  refine ⟨i, hi, VertexSet.orderedIndex?_eq_some_iff_isLast.mpr ?_⟩
  show IsLast (vertexIds parts) id _
  rw [hsplit, vertexIds, List.flatMap_append, List.flatMap_cons]
  exact hi.within _ hbehind

/-- **Numbered parts are read in the order of their names**, and that is the order of their numbers iff the numbers are
aligned, as they are if all names are of one length. Different numbers make different names. The directory lists the
parts in the order of the names, and the rows that are read are those of the parts in this order, one part after the
other. So a vertex set has its ids in this order, and an id that is repeated has the ordered index of its last place in
the last part that has it. -/
theorem numbered_parts (hq : d.shardDirectory g = .ok q) (ho : d.config.ordering = .lexicographic)
    (he : m.Reliable) :
    (∀ (s : Schema) (parts : List (Part s)) (after : FileSystem), d.Numbered q parts after →
      (parts.map Part.name).Nodup ∧
      (Part.byName parts).Perm parts ∧
      (∃ l, { d with files := after }.listing m q = .ok l ∧ l.names = (Part.byName parts).map Part.name ∧
        l.names.Pairwise fun a b => Text.bytes a < Text.bytes b) ∧
      (Part.byName parts = parts ↔ Part.Aligned parts) ∧
      ((∀ p ∈ parts, ∀ p' ∈ parts, partWidth p.index = partWidth p'.index) → Part.Aligned parts) ∧
      { d with files := after }.rowsOf m s q = .ok ((Part.byName parts).flatMap Part.rows, parts.length) ∧
      ∀ first second, { d with files := after }.internalizeOn m g s.kind first second =
        match d.entityOf g first second s ((Part.byName parts).flatMap Part.rows) with
        | .error e => ({ d with files := after }, .error e)
        | .ok x => ({ d with files := after, store := d.store.install g x },
            .ok ⟨g, s.kind, ((Part.byName parts).flatMap Part.rows).length, parts.length, q⟩)) ∧
    ∀ (parts : List (Part .vertex)) (after : FileSystem), d.Numbered q parts after →
      d.config.duplicates = .lastWriteWins ∨ (vertexIds parts).Nodup → ∀ first second, ∃ vs : VertexSet,
        { d with files := after }.internalizeOn m g .vertexSet first second =
          ({ d with files := after, store := d.store.install g (.vertexSet vs) },
            .ok ⟨g, .vertexSet, (vertexIds parts).length, parts.length, q⟩) ∧
        vs.ids.toList = vertexIds (Part.byName parts) ∧
        ∀ before p behind id, Part.byName parts = before ++ p :: behind → id ∈ p.rows.map VertexRow.id →
          id ∉ vertexIds behind → ∃ i, IsLast (p.rows.map VertexRow.id) id i ∧
            vs.orderedIndex? id = some ((vertexIds before).length + i) := by
  refine ⟨fun s parts after h => ⟨Part.nodup_names h.ascending, Part.byName_perm parts, h.listing ho he,
    Part.byName_eq_self h.ascending, Part.aligned_of_partWidth h.ascending, h.rowsOf ho he,
    fun first second => h.internalize ho he hq⟩, fun parts after h hpolicy first second => ?_⟩
  exact ⟨_, h.internalize_vertices ho he hq hpolicy, rfl, fun before p behind id => orderedIndex?_vertexIds⟩

theorem shardDirectory_occupiedDisk : (occupiedDisk (.directory [])).shardDirectory ⟨"v"⟩ = .ok ⟨"d/v"⟩ :=
  eq_ok_of_toOption (by decide +kernel)

/-- A directory into which parts can be written. -/
theorem numbered_occupiedDisk {parts : List (Part s)} (h : (parts.map Part.index).Pairwise (· < ·))
    (hpaths : ∀ p ∈ parts, (Path.entry ⟨"d/v"⟩ p.name).check = .ok () ∧ p.name.utf8ByteSize ≤ maxNameSize) :
    ∃ after, (occupiedDisk (.directory [])).Numbered ⟨"d/v"⟩ parts after := by
  have hopens : (occupiedDisk (.directory [])).files.Opens ⟨"d/v"⟩ ["d", "v"] :=
    ⟨[], maxLinks, rfl, .down ⟨by decide, by decide, by decide, by decide⟩ rfl
      (.down ⟨by decide, by decide, by decide, by decide⟩ rfl (.here _ _))⟩
  have hmarker : ∀ k, partFileName k ≠ "_SUCCESS" := fun k hk => by
    simpa [partFileName_toList] using congrArg String.toList hk
  have hfair : Schedule.Fair List.range := fun n => List.Perm.refl _
  obtain ⟨after, hafter⟩ := Part.exists_written ⟨1, 0⟩ hfair hopens (Part.nodup_names h) (fun p _ => rfl) hpaths
  refine ⟨after, h, ⟨parts, List.Perm.refl _, hafter⟩, [], rfl, rfl, fun p _ => ?_, by simp [occupiedDisk]⟩
  exact fun hm => hmarker p.index (List.mem_singleton.mp hm)

/-- Three parts with names of different lengths, and an id that is in two of them. -/
def longParts : List (Part .vertex) := [⟨12, [⟨7⟩, ⟨8⟩]⟩, ⟨120000, [⟨7⟩, ⟨9⟩]⟩, ⟨130000, []⟩]

/-- They are read in the order of their numbers, and the id has the index of its place in the second part. -/
theorem numbered_longParts : ∃ after, ∃ vs : VertexSet,
    { occupiedDisk (.directory []) with files := after }.internalizeOn
        { enumerate := List.reverse } ⟨"v"⟩ .vertexSet none none =
      ({ occupiedDisk (.directory []) with
          files := after, store := (occupiedDisk (.directory [])).store.install ⟨"v"⟩ (.vertexSet vs) },
        .ok ⟨⟨"v"⟩, .vertexSet, 4, 3, ⟨"d/v"⟩⟩) ∧
    vs.ids.toList = [7, 8, 7, 9] ∧ vs.orderedIndex? 7 = some 2 := by
  have hascending : (longParts.map Part.index).Pairwise (· < ·) := by decide
  have hpaths : ∀ p ∈ longParts, (Path.entry ⟨"d/v"⟩ p.name).check = .ok () ∧ p.name.utf8ByteSize ≤ maxNameSize := by
    simp only [longParts, List.forall_mem_cons, List.not_mem_nil, false_implies, implies_true, and_true]
    exact ⟨⟨by decide +kernel, by decide +kernel⟩,
      ⟨by decide +kernel, by decide +kernel⟩, by decide +kernel, by decide +kernel⟩
  obtain ⟨after, hnumbered⟩ := numbered_occupiedDisk hascending hpaths
  have haligned : Part.Aligned longParts := by
    unfold Part.Aligned longParts
    decide +kernel
  have hreversed : ({ enumerate := List.reverse } : Machine).Reliable :=
    { Machine.reliable_default with lists := fun entries => List.reverse_perm entries }
  obtain ⟨hparts, hvertices⟩ := numbered_parts shardDirectory_occupiedDisk rfl hreversed
  have hsame : Part.byName longParts = longParts := (hparts .vertex longParts after hnumbered).2.2.2.1.mpr haligned
  obtain ⟨vs, hread, hids, hlast⟩ := hvertices longParts after hnumbered (Or.inl rfl) none none
  rw [hsame] at hids hlast
  obtain ⟨i, hi, hindex⟩ := hlast [⟨12, [⟨7⟩, ⟨8⟩]⟩] ⟨120000, [⟨7⟩, ⟨9⟩]⟩ [⟨130000, []⟩] 7 rfl (by decide) (by decide)
  have hzero : i = 0 := by
    match i, hi.1 with
    | 0, _ => rfl
    | 1, h => cases h
  refine ⟨after, vs, hread, hids, ?_⟩
  rw [hindex, hzero]
  rfl

/-- Two parts, of which the second has the greater number and the longer name. -/
def straddlingParts : List (Part .vertex) := [⟨99999, [⟨7⟩, ⟨8⟩]⟩, ⟨100000, [⟨7⟩]⟩]

/-- **The part with the greater number is read first** where its name has one digit more. The id that is in both parts
has an index in the part with the lesser number. -/
theorem straddlingParts_reversed : ∃ after, ∃ vs : VertexSet,
    (occupiedDisk (.directory [])).Numbered ⟨"d/v"⟩ straddlingParts after ∧
    ({ occupiedDisk (.directory []) with files := after }.listing {} ⟨"d/v"⟩).map Listing.names =
      .ok ["part-100000.parquet", "part-99999.parquet"] ∧
    { occupiedDisk (.directory []) with files := after }.internalizeOn {} ⟨"v"⟩ .vertexSet none none =
      ({ occupiedDisk (.directory []) with
          files := after, store := (occupiedDisk (.directory [])).store.install ⟨"v"⟩ (.vertexSet vs) },
        .ok ⟨⟨"v"⟩, .vertexSet, 3, 2, ⟨"d/v"⟩⟩) ∧
    vs.ids = #[7, 7, 8] ∧ vs.orderedIndex? 7 = some 1 := by
  have hascending : (straddlingParts.map Part.index).Pairwise (· < ·) := by decide
  have hpaths : ∀ p ∈ straddlingParts, (Path.entry ⟨"d/v"⟩ p.name).check = .ok () ∧
      p.name.utf8ByteSize ≤ maxNameSize := by
    simp only [straddlingParts, List.forall_mem_cons, List.not_mem_nil, false_implies, implies_true, and_true]
    exact ⟨⟨by decide +kernel, by decide +kernel⟩, by decide +kernel, by decide +kernel⟩
  obtain ⟨after, hnumbered⟩ := numbered_occupiedDisk hascending hpaths
  have hlays := hnumbered.laysOut
  have hordered : Part.byName straddlingParts = [⟨100000, [⟨7⟩]⟩, ⟨99999, [⟨7⟩, ⟨8⟩]⟩] := by
    refine Part.byName_eq hascending (List.Perm.swap _ _ _) (List.pairwise_pair.mpr ?_)
    decide +kernel
  rw [hordered] at hlays
  obtain ⟨l, hl, hnames, -⟩ := listing_of_laysOut hlays rfl Machine.reliable_default.toFaithful
  have hread : { occupiedDisk (.directory []) with files := after }.internalizeOn {} ⟨"v"⟩ .vertexSet none none = _ :=
    internalize_of_laysOut (s := .vertex) shardDirectory_occupiedDisk hlays rfl Machine.reliable_default
  refine ⟨after, .ofIds #[7, 7, 8], hnumbered, ?_, hread, rfl,
    VertexSet.orderedIndex?_eq_some_iff_isLast.mpr ⟨rfl, fun k hk => ?_⟩⟩
  · rw [hl, Except.map, hnames]
    exact congrArg Except.ok (by decide +kernel)
  · match k, hk with
    | 2, _ => decide
    | k + 3, _ => simp [VertexSet.ofIds]

end UnorderedDisk

end GraphDisk
