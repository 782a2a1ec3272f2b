import GraphDisk.FileSystem.Tree

/-!
# What is seen at the locations of a tree

`Node.at?` looks a location up under a node and goes over concatenations (`Node.at?_append`). A `Shape` is a node
without what a directory holds, so a tree is known, but for the order in which directories list their entries, by the
shapes at its locations. Putting a node in and taking one out change the shapes under that entry and no others
(`FileSystem.shape?_put`, `FileSystem.shape?_erase`).
-/

namespace GraphDisk

/-- A node without what a directory holds. -/
inductive Shape where
  | file (content : Content)
  | link (target : Path)
  | directory

namespace Node

/-- The shape of a node. -/
def shape : Node → Shape
  | file content => .file content
  | link target => .link target
  | directory _ => .directory

/-- The node at a location under a node. -/
def at? : Location → Node → Option Node
  | [], n => some n
  | name :: rest, directory entries => (Directory.find? entries name).bind (at? rest)
  | _ :: _, _ => none

theorem eq_directory_of_shape {n : Node} (h : n.shape = .directory) : ∃ entries, n = directory entries := by
  cases n with
  | file _ => cases h
  | link _ => cases h
  | directory entries => exact ⟨entries, rfl⟩

@[simp] theorem at?_nil (n : Node) : n.at? [] = some n := by cases n <;> rfl

@[simp] theorem at?_cons_directory (name : String) (rest : Location) (d : Directory) :
    (directory d).at? (name :: rest) = (d.find? name).bind (at? rest) := rfl

/-- Under a node that is no directory there is nothing. -/
theorem at?_cons_of_ne {n : Node} (h : n.shape ≠ .directory) (name : String) (rest : Location) :
    n.at? (name :: rest) = none := by
  cases n with
  | file _ => rfl
  | link _ => rfl
  | directory _ => exact absurd rfl h

/-- Looking up goes over concatenations. -/
theorem at?_append : ∀ (l r : Location) (n : Node), n.at? (l ++ r) = (n.at? l).bind (at? r)
  | [], r, n => by simp
  | name :: l, r, directory d => by
    simp only [List.cons_append, at?_cons_directory]
    cases Directory.find? d name with
    | none => rfl
    | some m => exact at?_append l r m
  | _ :: _, _, file _ => rfl
  | _ :: _, _, link _ => rfl

end Node

namespace Directory

@[simp] theorem find?_nil (name : String) : find? [] name = none := rfl

theorem find?_cons (k : String) (n : Node) (d : Directory) (name : String) :
    find? ((k, n) :: d) name = if name = k then some n else find? d name := by
  unfold find?
  by_cases h : name = k
  · simp [h]
  · simp [h, List.lookup_cons, beq_eq_false_iff_ne.mpr h]

theorem mem_of_find? {name : String} {n : Node} : ∀ {d : Directory}, find? d name = some n → name ∈ d.map Prod.fst
  | [], h => by cases h
  | (k, m) :: d, h => by
    rw [find?_cons] at h
    split at h
    · rename_i hk
      simp [hk]
    · exact List.mem_cons_of_mem _ (mem_of_find? h)

theorem isSome_find? {name : String} : ∀ {d : Directory}, (find? d name).isSome ↔ name ∈ d.map Prod.fst
  | [] => by simp
  | (k, n) :: d => by
    rw [find?_cons, List.map_cons, List.mem_cons]
    by_cases h : name = k
    · simp [h]
    · rw [if_neg h, isSome_find?]
      simp [h]

/-- An entry that was put in is found, and all others are found as before. -/
theorem find?_insert (name : String) (node : Node) (k : String) :
    ∀ d : Directory, find? (insert name node d) k = if k = name then some node else find? d k
  | [] => by simp [insert, find?_cons]
  | (j, m) :: d => by
    unfold insert
    split
    · rw [find?_cons]
    · split
      · rename_i h
        subst h
        rw [find?_cons, find?_cons]
        split <;> rfl
      · rename_i h
        rw [find?_cons, find?_cons, find?_insert name node k d]
        by_cases hj : k = j
        · have hk : k ≠ name := fun e => h (e.symm.trans hj)
          simp [hj, hj ▸ hk]
        · simp [hj]

/-- An entry that was taken out is found no more, and all others are found as before. -/
theorem find?_erase (name k : String) :
    ∀ d : Directory, find? (erase name d) k = if k = name then none else find? d k
  | [] => by simp [erase]
  | (j, m) :: d => by
    have ih := find?_erase name k d
    unfold erase at ih ⊢
    rw [List.filter_cons]
    by_cases hj : j = name
    · rw [if_neg (by simp [hj]), ih, find?_cons]
      by_cases hk : k = name
      · simp [hk]
      · simp [hk, hj]
    · rw [if_pos (by simp [hj]), find?_cons, find?_cons, ih]
      by_cases hk : k = j
      · simp [hk, hj]
      · simp [hk]

/-- What becomes of one entry when a directory further down is changed. -/
def updateEntry (change : Directory → Directory) (rest : Location) : Node → Node
  | .directory entries => .directory (update change rest entries)
  | n => n

theorem update_cons (change : Directory → Directory) (name : String) (rest : Location) (k : String) (n : Node)
    (d : Directory) : update change (name :: rest) ((k, n) :: d) =
      (k, if k = name then updateEntry change rest n else n) :: update change (name :: rest) d := by
  unfold update
  rw [List.map_cons]
  by_cases h : k = name
  · rw [if_pos h, if_pos h]; cases n <;> rfl
  · rw [if_neg h, if_neg h]

theorem find?_update (change : Directory → Directory) (name : String) (rest : Location) (k : String) :
    ∀ d : Directory, find? (update change (name :: rest) d) k =
      if k = name then (find? d k).map (updateEntry change rest) else find? d k
  | [] => by simp [update]
  | (j, m) :: d => by
    rw [update_cons, find?_cons, find?_cons, find?_update change name rest k d]
    by_cases hk : k = j
    · by_cases hj : j = name
      · simp [hk, hj]
      · simp [hk, hj]
    · simp [hk]

/-- The locations of a directory are those under it as a node. -/
theorem node?_eq : ∀ (l : Location) (d : Directory), node? l d = (Node.directory d).at? l
  | [], _ => rfl
  | name :: rest, d => by
    rw [node?, Node.at?_cons_directory]
    cases find? d name with
    | none => rfl
    | some n =>
      cases n with
      | directory entries => exact node?_eq rest entries
      | file content => cases rest <;> rfl
      | link target => cases rest <;> rfl

/-- Under the changed directory lies what the change has made of it. -/
theorem node?_update_append (change : Directory → Directory) :
    ∀ (r : Location) {d entries : Directory} (l : Location), node? r d = some (.directory entries) →
      node? (r ++ l) (update change r d) = (Node.directory (change entries)).at? l
  | [], d, entries, l, h => by
    cases h
    exact node?_eq l _
  | name :: r, d, entries, l, h => by
    rw [node?_eq, Node.at?_cons_directory] at h
    rw [List.cons_append, node?_eq, Node.at?_cons_directory, find?_update, if_pos rfl]
    cases hn : find? d name with
    | none => rw [hn] at h; cases h
    | some n =>
      rw [hn] at h
      cases n with
      | directory below =>
        have hb : node? r below = some (.directory entries) := by rw [node?_eq]; exact h
        have := node?_update_append change r l hb
        rw [node?_eq] at this
        exact this
      | file _ => cases r <;> cases h
      | link _ => cases r <;> cases h

/-- Elsewhere nothing is seen of the change. -/
theorem shape_node?_update (change : Directory → Directory) :
    ∀ (r l : Location) (d : Directory), ¬ r <+: l →
      (node? l (update change r d)).map Node.shape = (node? l d).map Node.shape
  | [], l, _, h => absurd (List.nil_prefix) h
  | name :: r, [], d, _ => rfl
  | name :: r, k :: l, d, h => by
    rw [node?_eq, node?_eq, Node.at?_cons_directory, Node.at?_cons_directory, find?_update]
    by_cases hk : k = name
    · have hl : ¬ r <+: l := fun hp => h (by rw [hk]; exact (List.cons_prefix_cons.mpr ⟨rfl, hp⟩))
      rw [if_pos hk]
      cases find? d k with
      | none => rfl
      | some n =>
        cases n with
        | directory below =>
          have := shape_node?_update change r l below hl
          rw [node?_eq, node?_eq] at this
          exact this
        | file _ => rfl
        | link _ => rfl
    · rw [if_neg hk]

/-- Off the way to the changed directory even the nodes stay. -/
theorem node?_update_of_not_prefix (change : Directory → Directory) :
    ∀ (r l : Location) (d : Directory), ¬ r <+: l → ¬ l <+: r → node? l (update change r d) = node? l d
  | [], l, _, h, _ => absurd (List.nil_prefix) h
  | name :: r, [], d, _, h => absurd (List.nil_prefix) h
  | name :: r, k :: l, d, h, h' => by
    rw [node?_eq, node?_eq, Node.at?_cons_directory, Node.at?_cons_directory, find?_update]
    by_cases hk : k = name
    · have hl : ¬ r <+: l := fun hp => h (by rw [hk]; exact (List.cons_prefix_cons.mpr ⟨rfl, hp⟩))
      have hl' : ¬ l <+: r := fun hp => h' (by rw [hk]; exact (List.cons_prefix_cons.mpr ⟨rfl, hp⟩))
      rw [if_pos hk]
      cases find? d k with
      | none => rfl
      | some n =>
        cases n with
        | directory below =>
          have := node?_update_of_not_prefix change r l below hl hl'
          rw [node?_eq, node?_eq] at this
          exact this
        | file _ => rfl
        | link _ => rfl
    · rw [if_neg hk]

end Directory

namespace FileSystem

variable {fs : FileSystem} {r l : Location} {name : String} {node : Node}

/-- The shape of the node at a location. -/
def shape? (fs : FileSystem) (l : Location) : Option Shape := (fs.node? l).map Node.shape

@[simp] theorem node?_nil (fs : FileSystem) : fs.node? [] = some (.directory fs.top) := rfl

theorem node?_append (fs : FileSystem) (l r : Location) : fs.node? (l ++ r) = (fs.node? l).bind (Node.at? r) := by
  simp only [node?, Directory.node?_eq, Node.at?_append]

theorem shape?_of_node? {n : Node} (h : fs.node? l = some n) : fs.shape? l = some n.shape := by simp [shape?, h]

theorem shape?_eq_none : fs.shape? l = none ↔ fs.node? l = none := by simp [shape?]

/-- A location where a directory is seen has a directory. -/
theorem node?_of_directory (h : fs.shape? l = some .directory) : fs.node? l = some (.directory (fs.entriesAt l)) := by
  obtain ⟨n, hn, hs⟩ := Option.map_eq_some_iff.mp h
  obtain ⟨entries, rfl⟩ := Node.eq_directory_of_shape hs
  simp [entriesAt, hn]

theorem node?_entry {entries : Directory} (h : fs.node? l = some (.directory entries)) (k : String) :
    fs.node? (l ++ [k]) = entries.find? k := by
  rw [node?_append, h, Option.bind_some, Node.at?_cons_directory]
  cases Directory.find? entries k <;> simp

/-- The names of the entries of the directory at a location. -/
def namesAt (fs : FileSystem) (l : Location) : List String := (fs.entriesAt l).map Prod.fst

theorem mem_namesAt (h : fs.shape? l = some .directory) :
    name ∈ fs.namesAt l ↔ ∃ n, fs.node? (l ++ [name]) = some n := by
  rw [node?_entry (node?_of_directory h), ← Option.isSome_iff_exists]
  exact Directory.isSome_find?.symm

/-- Whatever lies under a location, a directory is there. -/
theorem shape?_of_append {n : Node} (h : fs.node? (l ++ name :: r) = some n) : fs.shape? l = some .directory := by
  rw [node?_append] at h
  obtain ⟨m, hm, hn⟩ := Option.bind_eq_some_iff.mp h
  rw [shape?_of_node? hm]
  by_cases hs : m.shape = .directory
  · rw [hs]
  · rw [Node.at?_cons_of_ne hs] at hn; cases hn

/-- The directory around a directory. -/
theorem shape?_dropLast (h : fs.shape? l = some .directory) : fs.shape? l.dropLast = some .directory := by
  rcases List.eq_nil_or_concat l with rfl | ⟨l', name, rfl⟩
  · exact h
  · rw [List.concat_eq_append] at h ⊢
    rw [List.dropLast_concat]
    exact shape?_of_append (node?_of_directory h)

/-- An entry does not lie on the way to its directory. -/
theorem entry_not_above (r : Location) (name : String) : ¬ r ++ [name] <+: r := fun h => by
  have := h.length_le
  rw [List.length_append, List.length_singleton] at this
  omega

/-- Entries of one directory lie beside each other. -/
theorem concat_prefix_iff {a b : String} : r ++ [a] <+: r ++ b :: l ↔ a = b := by
  rw [List.prefix_append_right_inj, List.cons_prefix_cons]
  simp

/-! ## Changing a directory -/

theorem node?_update_append (change : Directory → Directory) (h : fs.shape? r = some .directory) (l : Location) :
    (fs.update change r).node? (r ++ l) = (Node.directory (change (fs.entriesAt r))).at? l :=
  Directory.node?_update_append change r l (node?_of_directory h)

theorem shape?_update_of_not_prefix (change : Directory → Directory) (h : ¬ r <+: l) :
    (fs.update change r).shape? l = fs.shape? l :=
  Directory.shape_node?_update change r l fs.top h

theorem node?_update_of_not_prefix (change : Directory → Directory) (h : ¬ r <+: l) (h' : ¬ l <+: r) :
    (fs.update change r).node? l = fs.node? l :=
  Directory.node?_update_of_not_prefix change r l fs.top h h'

theorem entriesAt_update (change : Directory → Directory) (h : fs.shape? r = some .directory) :
    (fs.update change r).entriesAt r = change (fs.entriesAt r) := by
  have := node?_update_append change h []
  rw [List.append_nil, Node.at?_nil] at this
  rw [entriesAt, this]

/-- A change that leaves all entries but one as they are is seen under that entry only. -/
theorem shape?_update_entry (change : Directory → Directory) (h : fs.shape? r = some .directory)
    (hc : ∀ k, k ≠ name → Directory.find? (change (fs.entriesAt r)) k = Directory.find? (fs.entriesAt r) k)
    (hl : ¬ r ++ [name] <+: l) : (fs.update change r).shape? l = fs.shape? l := by
  by_cases hp : r <+: l
  · obtain ⟨rest, rfl⟩ := hp
    unfold shape?
    rw [node?_update_append change h, node?_append, node?_of_directory h]
    cases rest with
    | nil => rfl
    | cons k rest =>
      have hk : k ≠ name := fun e => hl ⟨rest, by simp [e]⟩
      simp only [Option.bind_some, Node.at?_cons_directory, hc k hk]
  · exact shape?_update_of_not_prefix change hp

theorem node?_update_entry (change : Directory → Directory) (h : fs.shape? r = some .directory)
    (hc : ∀ k, k ≠ name → Directory.find? (change (fs.entriesAt r)) k = Directory.find? (fs.entriesAt r) k)
    (hl : ¬ r ++ [name] <+: l) (hr : ¬ l <+: r) : (fs.update change r).node? l = fs.node? l := by
  by_cases hp : r <+: l
  · obtain ⟨rest, rfl⟩ := hp
    rw [node?_update_append change h, node?_append, node?_of_directory h]
    cases rest with
    | nil => exact absurd (by simp) hr
    | cons k rest =>
      have hk : k ≠ name := fun e => hl ⟨rest, by simp [e]⟩
      simp only [Option.bind_some, Node.at?_cons_directory, hc k hk]
  · exact node?_update_of_not_prefix change hp hr

/-! ## Putting a node in -/

section Put

variable (h : fs.shape? r = some .directory)
include h

/-- What lies under the node that was put in. -/
theorem node?_put_append (l : Location) : (fs.put r name node).node? (r ++ name :: l) = node.at? l := by
  rw [put, node?_update_append _ h, Node.at?_cons_directory, Directory.find?_insert, if_pos rfl]
  rfl

@[simp] theorem node?_put_self : (fs.put r name node).node? (r ++ [name]) = some node := by
  rw [node?_put_append h, Node.at?_nil]

/-- The entries of a directory after one of them was put in. -/
theorem node?_put_entry (k : String) :
    (fs.put r name node).node? (r ++ [k]) = if k = name then some node else fs.node? (r ++ [k]) := by
  rw [put, node?_update_append _ h, Node.at?_cons_directory, Directory.find?_insert, node?_append, node?_of_directory h]
  split <;> rfl

theorem shape?_put (hl : ¬ r ++ [name] <+: l) : (fs.put r name node).shape? l = fs.shape? l :=
  shape?_update_entry _ h (fun k hk => by rw [Directory.find?_insert, if_neg hk]) hl

theorem node?_put (hl : ¬ r ++ [name] <+: l) (hr : ¬ l <+: r) : (fs.put r name node).node? l = fs.node? l :=
  node?_update_entry _ h (fun k hk => by rw [Directory.find?_insert, if_neg hk]) hl hr

theorem entriesAt_put : (fs.put r name node).entriesAt r = Directory.insert name node (fs.entriesAt r) :=
  entriesAt_update _ h

theorem shape?_put_directory : (fs.put r name node).shape? r = some .directory := by
  rw [shape?_put h (entry_not_above r name), h]

end Put

/-! ## Taking a node out -/

theorem erase_append (fs : FileSystem) (r : Location) (name : String) :
    fs.erase (r ++ [name]) = fs.update (Directory.erase name) r := by
  simp [erase]

section Erase

variable (h : fs.shape? r = some .directory)
include h

/-- The entries of a directory after one of them was taken out. -/
theorem node?_erase_entry (k : String) :
    (fs.erase (r ++ [name])).node? (r ++ [k]) = if k = name then none else fs.node? (r ++ [k]) := by
  rw [erase_append, node?_update_append _ h, Node.at?_cons_directory, Directory.find?_erase, node?_append,
    node?_of_directory h]
  split <;> rfl

theorem shape?_erase (hl : ¬ r ++ [name] <+: l) : (fs.erase (r ++ [name])).shape? l = fs.shape? l := by
  rw [erase_append]
  exact shape?_update_entry _ h (fun k hk => by rw [Directory.find?_erase, if_neg hk]) hl

theorem node?_erase (hl : ¬ r ++ [name] <+: l) (hr : ¬ l <+: r) :
    (fs.erase (r ++ [name])).node? l = fs.node? l := by
  rw [erase_append]
  exact node?_update_entry _ h (fun k hk => by rw [Directory.find?_erase, if_neg hk]) hl hr

theorem shape?_erase_directory : (fs.erase (r ++ [name])).shape? r = some .directory := by
  rw [shape?_erase h (entry_not_above r name), h]

end Erase

@[simp] theorem working_put (fs : FileSystem) (r : Location) (name : String) (node : Node) :
    (fs.put r name node).working = fs.working := rfl

@[simp] theorem working_erase (fs : FileSystem) (l : Location) : (fs.erase l).working = fs.working := by
  unfold erase; split <;> rfl

end FileSystem

end GraphDisk
