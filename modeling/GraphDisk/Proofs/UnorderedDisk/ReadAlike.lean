import GraphDisk.Proofs.FileSystem.Footprint
import GraphDisk.Proofs.FileSystem.MakeDirectories
import GraphDisk.Proofs.UnorderedDisk.FailedRead
import GraphDisk.Proofs.UnorderedDisk.NormalForm

/-!
# What reading a shard directory depends on

Reading lists the directory and opens its data files. Where the path to the root leads to the same directory and the
entry of the guid is the same, the shard directory reads alike (`FileSystem.readsAlike_of_entry`), unless a link is
there or the entries have names that are no names. Under a root that is missing nothing is found, and nothing is found
either once the root has been made, if that has not made the place as well (`FileSystem.readsAlike_of_missing`).
-/

namespace GraphDisk

/-! ## File systems as they are -/

instance (name : String) : Decidable (IsEntryName name) :=
  decidable_of_iff (name ≠ "" ∧ '/' ∉ name.toList ∧ name ≠ "." ∧ name ≠ "..")
    ⟨fun h => ⟨⟨h.1, h.2.1⟩, h.2.2.1, h.2.2.2⟩, fun h => ⟨h.ne_empty, h.no_slash, h.ne_dot, h.ne_dots⟩⟩

/-- Entries as a file system has them: different ones have different names, and a path can lead to each of them. -/
structure Directory.WellFormed (entries : Directory) : Prop where
  nodup : (entries.map Prod.fst).Nodup
  names : ∀ name ∈ entries.map Prod.fst, IsEntryName name

instance (entries : Directory) : Decidable entries.WellFormed :=
  decidable_of_iff ((entries.map Prod.fst).Nodup ∧ ∀ name ∈ entries.map Prod.fst, IsEntryName name)
    ⟨fun h => ⟨h.1, h.2⟩, fun h => ⟨h.nodup, h.names⟩⟩

theorem Directory.find?_of_mem {name : String} {x : Node} : ∀ {entries : Directory}, (entries.map Prod.fst).Nodup →
    (name, x) ∈ entries → find? entries name = some x
  | (k, y) :: rest, hn, hm => by
    rw [List.map_cons, List.nodup_cons] at hn
    rw [find?_cons]
    rcases List.mem_cons.mp hm with h | h
    · cases h
      rw [if_pos rfl]
    · have hne : name ≠ k := by
        rintro rfl
        exact hn.1 (List.mem_map.mpr ⟨_, h, rfl⟩)
      rw [if_neg hne, find?_of_mem hn.2 h]

namespace Node

mutual

/-- Whether all directories in a node have entries as a file system has them. -/
def isWellFormed : Node → Bool
  | file _ => true
  | link _ => true
  | directory entries => decide (Directory.WellFormed entries) && areWellFormed entries

/-- Whether all directories in some entries are like that. -/
def areWellFormed : List (String × Node) → Bool
  | [] => true
  | (_, n) :: rest => isWellFormed n && areWellFormed rest

end

theorem isWellFormed_of_find? {name : String} {n : Node} : ∀ {entries : Directory}, areWellFormed entries = true →
    Directory.find? entries name = some n → n.isWellFormed = true
  | (k, m) :: rest, h, hf => by
    rw [areWellFormed, Bool.and_eq_true] at h
    rw [Directory.find?_cons] at hf
    split at hf
    · cases hf
      exact h.1
    · exact isWellFormed_of_find? h.2 hf

theorem wellFormed_of_at? {entries : Directory} : ∀ {l : Location} {n : Node}, n.isWellFormed = true →
    n.at? l = some (directory entries) → entries.WellFormed
  | [], n, h, ha => by
    rw [at?_nil] at ha
    cases ha
    rw [isWellFormed, Bool.and_eq_true] at h
    exact of_decide_eq_true h.1
  | name :: l, directory d, h, ha => by
    rw [isWellFormed, Bool.and_eq_true] at h
    rw [at?_cons_directory] at ha
    obtain ⟨m, hm, ha⟩ := Option.bind_eq_some_iff.mp ha
    exact wellFormed_of_at? (isWellFormed_of_find? h.2 hm) ha

end Node

namespace FileSystem

variable {fs fs' fs'' : FileSystem} {q : Path} {r : Location} {a : String}

/-- Every directory has entries as a file system has them. -/
def WellFormed (fs : FileSystem) : Prop :=
  ∀ l entries, fs.node? l = some (.directory entries) → Directory.WellFormed entries

theorem wellFormed_of_top (h : (Node.directory fs.top).isWellFormed = true) : fs.WellFormed := by
  intro l entries hl
  rw [node?, Directory.node?_eq] at hl
  exact Node.wellFormed_of_at? h hl

/-! ## Directories that read alike -/

/-- **A directory of data files reads in one file system as in the other.** -/
structure ReadsAlike (q : Path) (fs fs' : FileSystem) : Prop where
  listed : fs'.list q = fs.list q
  opened : ∀ entries, fs.list q = .ok entries → ∀ marker, ∀ name ∈ dataNames marker entries,
    fs'.openShard (q.entry name) = fs.openShard (q.entry name)

theorem ReadsAlike.refl (q : Path) (fs : FileSystem) : ReadsAlike q fs fs := ⟨rfl, fun _ _ _ _ _ => rfl⟩

theorem ReadsAlike.trans (h : ReadsAlike q fs fs') (h' : ReadsAlike q fs' fs'') : ReadsAlike q fs fs'' :=
  ⟨h'.listed.trans h.listed, fun entries hl marker name hn =>
    (h'.opened entries (h.listed.trans hl) marker name hn).trans (h.opened entries hl marker name hn)⟩

/-- Where a directory is listed, its entry is reached. -/
theorem reaches_of_list {entries : Directory} (ho : fs.Opens q r) (ha : IsEntryName a)
    (hl : ∀ target, fs.shape? (r ++ [a]) ≠ some (.link target)) (h : fs.list (q.entry a) = .ok entries) :
    fs.Reaches q a r ∧ fs.node? (r ++ [a]) = some (.directory entries) := by
  unfold list find at h
  rw [ho.lookup_entry ha (Or.inr hl)] at h
  cases hlook : fs.lookAt q r a with
  | error fault => rw [hlook] at h; cases h
  | ok t =>
    rw [hlook] at h
    obtain ⟨hc, hs, rfl⟩ := lookAt_ok hlook
    cases hx : fs.node? (r ++ [a]) with
    | none =>
      rw [targetAt_none hx] at h
      cases h
    | some x =>
      rw [targetAt_some hx] at h
      cases x with
      | file content => cases h
      | link target => cases h
      | directory below => cases h; exact ⟨⟨hc, ho, hs⟩, rfl⟩

/-- **A shard directory reads alike wherever its entry is the same.** -/
theorem readsAlike_of_entry (ho : fs.Opens q r) (ho' : fs'.Opens q r) (ha : IsEntryName a)
    (h : fs'.node? (r ++ [a]) = fs.node? (r ++ [a])) (hl : ∀ target, fs.shape? (r ++ [a]) ≠ some (.link target))
    (hw : ∀ entries, fs.node? (r ++ [a]) = some (.directory entries) → Directory.WellFormed entries) :
    ReadsAlike (q.entry a) fs fs' := by
  refine ⟨by rw [list, list, find_congr ho ho' ha h hl], fun entries hlist marker name hname => ?_⟩
  obtain ⟨hr, hx⟩ := reaches_of_list ho ha hl hlist
  obtain ⟨hnodup, hnames⟩ := hw entries hx
  have hx' : fs'.node? (r ++ [a]) = some (.directory entries) := h.trans hx
  have hopens := ho.entry ha hr.short (shape?_of_node? hx)
  have hopens' := ho'.entry ha hr.short (shape?_of_node? hx')
  obtain ⟨e, he, rfl⟩ := List.mem_map.mp (List.mem_filter.mp hname).1
  obtain ⟨hmem, hfile⟩ := List.mem_filter.mp he
  have hentry : fs.node? (r ++ [a] ++ [e.1]) = some e.2 :=
    (node?_entry hx e.1).trans (Directory.find?_of_mem hnodup hmem)
  have hfound : fs'.find ((q.entry a).entry e.1) = fs.find ((q.entry a).entry e.1) := by
    refine find_congr hopens hopens' (hnames e.1 (List.mem_map_of_mem hmem)) ?_ fun target ht => ?_
    · rw [node?_entry hx', node?_entry hx]
    · rw [shape?, hentry] at ht
      cases hnode : e.2 with
      | file content => rw [hnode] at ht; cases ht
      | link _ => rw [hnode] at hfile; cases hfile
      | directory _ => rw [hnode] at hfile; cases hfile
  rw [openShard, openShard, hfound]

/-! ## A root that is missing -/

/-- Where a path to a directory leads nowhere because directories are missing, nothing is found at its entries. -/
theorem find_of_missing {paths : List Path} (hmore : MoreDirectories paths fs fs') (hnot : ∀ r, ¬ fs.Opens q r)
    (ho : fs'.Opens q r) (ha : IsEntryName a) (hc : (q.entry a).check = .ok ()) :
    fs.find (q.entry a) = .error .notFound := by
  have hthins : Thins fs' fs fs := by
    intro l s hs
    cases hl : fs.shape? l with
    | none => exact Or.inr rfl
    | some s' =>
      have hkept := hmore.kept l s' hl
      rw [hs] at hkept
      cases hkept
      exact Or.inl ⟨rfl, rfl⟩
  obtain ⟨here, m, hs, hl⟩ := ho
  have hnone : fs.lookup true (q.entry a) = .error .notFound := by
    unfold lookup
    rw [hc, start_entry ha.toIsSegment, Path.lookupSteps_entry ha.toIsSegment]
    rcases start_or_missing hmore.working.symm hmore.working.symm hthins hs with hst | hst
    · rw [hst]
      rcases hl.or_missing hthins with hl' | hmissing
      · exact absurd ⟨here, m, hst, hl'⟩ (hnot r)
      · exact hmissing (.look true) [a] (by simp) (by simp [ha.ne_empty])
    · rw [hst]
      rfl
  unfold find
  rw [hnone]
  rfl

/-- **A missing root reads like an empty one.** -/
theorem readsAlike_of_missing {paths : List Path} (hmore : MoreDirectories paths fs fs') (hnot : ∀ r, ¬ fs.Opens q r)
    (ho : fs'.Opens q r) (ha : IsEntryName a) (hs : a.utf8ByteSize ≤ maxNameSize)
    (hfree : fs'.node? (r ++ [a]) = none) :
    ReadsAlike (q.entry a) fs fs' := by
  obtain ⟨fault, hfind, hfind'⟩ : ∃ fault, fs.find (q.entry a) = .error fault ∧
      fs'.find (q.entry a) = .error fault := by
    cases hc : (q.entry a).check with
    | error fault => exact ⟨fault, find_of_check hc, find_of_check hc⟩
    | ok _ => exact ⟨.notFound, find_of_missing hmore hnot ho ha hc, find_free ha ⟨hc, ho, hs⟩ hfree⟩
  have hlist : fs.list (q.entry a) = .error fault := by
    rw [list, hfind]
    rfl
  refine ⟨?_, fun entries h => ?_⟩
  · rw [hlist, list, hfind']
    rfl
  · rw [hlist] at h
    cases h

end FileSystem

namespace UnorderedDisk

variable {d disk : UnorderedDisk} {g : Guid} {kind : Kind} {first second : Option Guid} {m : Machine}
  {q : Path}

/-- The paths of a listing are those of data files. -/
theorem mem_paths_ofEntries {entries : Directory} {marker : String} {ordering : ShardOrdering} {p : Path}
    (h : p ∈ (Listing.ofEntries q marker ordering entries).paths) :
    ∃ name ∈ dataNames marker entries, p = q.entry name := by
  obtain ⟨name, hname, rfl⟩ := List.mem_map.mp h
  exact ⟨name, Listing.names_perm.mem_iff.mp hname, rfl⟩

/-- Rows that are read alike. -/
theorem rowsOf_congr (hc : disk.config = d.config) (h : FileSystem.ReadsAlike q d.files disk.files)
    (he : ∀ entries, (m.enumerate entries).Perm entries) (s : Schema) :
    disk.rowsOf m s q = d.rowsOf m s q := by
  have hlisting : disk.listing m q = d.listing m q := by
    unfold listing Machine.list
    rw [h.listed, hc]
  unfold rowsOf
  rw [hlisting]
  cases hl : d.listing m q with
  | error e => rfl
  | ok l =>
    have hread : ∀ p ∈ l.paths, disk.readFile m s p = d.readFile m s p := by
      obtain ⟨entries, hlist, rfl, -⟩ := listing_eq_ok.mp hl
      obtain ⟨-, listed, hlisted, rfl⟩ := Machine.list_eq_ok.mp hlist
      intro p hp
      obtain ⟨name, hname, rfl⟩ := mem_paths_ofEntries hp
      unfold readFile Machine.openShard
      rw [h.opened listed hlisted _ name ((dataNames_perm (he listed)).mem_iff.mp hname), hc]
    show disk.readRows m s l = d.readRows m s l
    unfold readRows
    rw [mapM_congr_of_mem hread]

/-- **What is built from a shard directory** depends on how it reads and on the vertex sets that are asked for. -/
theorem rebuild_congr (hc : disk.config = d.config) (hg : g.fault? = none)
    (h : FileSystem.ReadsAlike (d.place g) d.files disk.files) (he : ∀ entries, (m.enumerate entries).Perm entries)
    (h₁ : disk.store.dependency first = d.store.dependency first)
    (h₂ : disk.store.dependency second = d.store.dependency second) :
    disk.rebuild m g kind first second = d.rebuild m g kind first second := by
  have hplace : disk.place g = d.place g := by rw [place, place, hc]
  have hd := shardDirectory_of_valid (d := d) hg
  have hd' := shardDirectory_of_valid (d := disk) hg
  rw [hplace] at hd'
  cases hk : kind.schema? with
  | none =>
    obtain rfl : kind = .scalar := by
      cases kind with
      | scalar => rfl
      | _ => cases hk
    unfold rebuild
    rw [hd, hd']
  | some s =>
    obtain rfl : s.kind = kind := by cases kind <;> cases hk <;> rfl
    have hbuilder : disk.builder g first second s = d.builder g first second s := by
      unfold builder
      rw [hc, Schema.builder_congr h₁ h₂]
    rw [rebuild_eq hd, rebuild_eq hd', hbuilder]
    simp only [rowsOf_congr hc h he s]

end UnorderedDisk

end GraphDisk
