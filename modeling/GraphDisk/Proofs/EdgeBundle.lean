import GraphDisk.Proofs.Dependency
import GraphDisk.Proofs.Outcome
import GraphDisk.Entity.OfRows

/-!
# Edge bundles between two pairs of vertex sets

The rows of an edge bundle name the ends of its edges by external id, and reading them against other vertex sets looks
the ids up there. An end is stranded when its id is missing (`EdgeBundle.Strands`), and its edge is lost. Reading fails
at the first edge that is lost, with its source before its destination (`ofRows_of_strand_src`, `ofRows_of_strand_dst`),
and otherwise gives the same edges between vertices with the same external ids (`ofRows_of_no_loss`).
-/

namespace GraphDisk

namespace EdgeBundle

variable {eb : EdgeBundle} {rows : List EdgeRow} {first second first' second' : Dependency} {k : Nat} {id : Int64}

/-- **An end of an edge is stranded** if its external id is missing in the other vertex set. -/
def Strands (eb : EdgeBundle) (endOf : Edge → Nat) (source target : VertexSet) (k : Nat) (id : Int64) : Prop :=
  ∃ e, eb.edges[k]? = some e ∧ source.externalId? (endOf e) = some id ∧ id ∉ target.ids

/-- An edge is lost if one of its ends is stranded. -/
def Loses (eb : EdgeBundle) (src dst src' dst' : VertexSet) (k : Nat) : Prop :=
  ∃ id, eb.Strands Edge.src src src' k id ∨ eb.Strands Edge.dst dst dst' k id

/-- **The same edges between other vertex sets**: edge by edge the same id, and ends with the same external ids. -/
structure MovedTo (eb : EdgeBundle) (src dst src' dst' : VertexSet) (eb' : EdgeBundle) : Prop where
  size : eb'.size = eb.size
  edge : ∀ (k : Nat) (e : Edge), eb.edges[k]? = some e →
    ∃ (e' : Edge) (s t : Int64), eb'.edges[k]? = some e' ∧ e'.id = e.id ∧
    src.externalId? e.src = some s ∧ src'.externalId? e'.src = some s ∧
    dst.externalId? e.dst = some t ∧ dst'.externalId? e'.dst = some t

/-- The rows of an edge bundle: one for each edge, with the external ids of its ends. -/
theorem externalRows_ok (h : eb.externalRows first second = .ok rows) :
    rows = eb.edges.toList.map (fun e => ⟨e.id, first.idAt e.src, second.idAt e.dst⟩) ∧
      ∀ e ∈ eb.edges, first.vertices.externalId? e.src = some (first.idAt e.src) ∧
        second.vertices.externalId? e.dst = some (second.idAt e.dst) := by
  have hrow : ∀ (e : Edge) (r : EdgeRow),
      (do return { id := e.id, src := ← first.externalId e.src, dst := ← second.externalId e.dst }) = Except.ok r →
      r.id = e.id ∧ first.vertices.externalId? e.src = some r.src ∧ second.vertices.externalId? e.dst = some r.dst := by
    intro e r hr
    obtain ⟨s, hs, hr⟩ := bind_eq_ok.mp hr
    obtain ⟨t, ht, hr⟩ := bind_eq_ok.mp hr
    cases hr
    exact ⟨rfl, Dependency.externalId_eq_ok.mp hs, Dependency.externalId_eq_ok.mp ht⟩
  obtain ⟨hrows, hall⟩ := eq_map_of_mapM (g := fun e => EdgeRow.mk e.id (first.idAt e.src) (second.idAt e.dst))
    (fun e r hr => by
      obtain ⟨hid, hs, ht⟩ := hrow e r hr
      rw [Dependency.idAt_eq hs, Dependency.idAt_eq ht, ← hid]) h
  refine ⟨hrows, fun e he => ?_⟩
  obtain ⟨-, hs, ht⟩ := hrow e _ (hall e (Array.mem_toList_iff.mpr he))
  exact ⟨hs, ht⟩

section Reading

variable (h : eb.externalRows first second = .ok rows)
include h

theorem src_mem_of_not_strands {e : Edge} (he : eb.edges[k]? = some e)
    (hno : ∀ id, ¬ eb.Strands Edge.src first.vertices first'.vertices k id) :
    first.idAt e.src ∈ first'.vertices.ids := by
  obtain ⟨-, hids⟩ := externalRows_ok h
  by_contra hmiss
  exact hno _ ⟨e, he, (hids e (Array.mem_of_getElem? he)).1, hmiss⟩

theorem dst_mem_of_not_strands {e : Edge} (he : eb.edges[k]? = some e)
    (hno : ∀ id, ¬ eb.Strands Edge.dst second.vertices second'.vertices k id) :
    second.idAt e.dst ∈ second'.vertices.ids := by
  obtain ⟨-, hids⟩ := externalRows_ok h
  by_contra hmiss
  exact hno _ ⟨e, he, (hids e (Array.mem_of_getElem? he)).2, hmiss⟩

/-- If no edge is lost the edges are the same. -/
theorem ofRows_of_no_loss
    (hno : ∀ k, ¬ eb.Loses first.vertices second.vertices first'.vertices second'.vertices k) :
    ∃ eb', ofRows first' second' rows = .ok eb' ∧
      eb.MovedTo first.vertices second.vertices first'.vertices second'.vertices eb' := by
  obtain ⟨hrows, hids⟩ := externalRows_ok h
  let moved (e : Edge) : Edge := ⟨e.id, first'.indexOf (first.idAt e.src), second'.indexOf (second.idAt e.dst)⟩
  have hmem : ∀ (k : Nat) (e : Edge), eb.edges[k]? = some e →
      first.idAt e.src ∈ first'.vertices.ids ∧ second.idAt e.dst ∈ second'.vertices.ids := fun k e he =>
    ⟨src_mem_of_not_strands h he fun id hs => hno k ⟨id, Or.inl hs⟩,
      dst_mem_of_not_strands h he fun id ht => hno k ⟨id, Or.inr ht⟩⟩
  have hedges : rows.mapM (fun r => do
      return ({ id := r.id, src := ← first'.orderedIndex r.src, dst := ← second'.orderedIndex r.dst } : Edge)) =
      .ok (eb.edges.toList.map moved) := by
    rw [hrows, List.mapM_map]
    refine mapM_of_ok fun e he => ?_
    obtain ⟨k, hk⟩ := List.mem_iff_getElem?.mp he
    obtain ⟨hsrc, hdst⟩ := hmem k e (by simpa using hk)
    simp [Dependency.orderedIndex_of_mem hsrc, Dependency.orderedIndex_of_mem hdst, bind, Except.bind,
      pure, Except.pure, moved]
  refine ⟨⟨(eb.edges.toList.map moved).toArray⟩, ?_, ?_, ?_⟩
  · unfold ofRows
    rw [hedges]
    rfl
  · simp [size]
  · intro k e he
    obtain ⟨hsrc, hdst⟩ := hmem k e he
    obtain ⟨hs', ht'⟩ := hids e (Array.mem_of_getElem? he)
    refine ⟨moved e, first.idAt e.src, second.idAt e.dst, by simp [he], rfl, hs', ?_, ht', ?_⟩
    · exact VertexSet.externalId?_orderedIndex? (Dependency.orderedIndex?_indexOf hsrc)
    · exact VertexSet.externalId?_orderedIndex? (Dependency.orderedIndex?_indexOf hdst)

/-- The first edge that is lost decides. -/
theorem ofRows_of_first {e : Edge} {err : Error} (he : eb.edges[k]? = some e)
    (hbefore : ∀ l, l < k → ¬ eb.Loses first.vertices second.vertices first'.vertices second'.vertices l)
    (herr : (do return ({ id := e.id, src := ← first'.orderedIndex (first.idAt e.src), dst := ←
      second'.orderedIndex (second.idAt e.dst) } : Edge)) = Except.error err) :
    ofRows first' second' rows = .error err := by
  obtain ⟨hrows, -⟩ := externalRows_ok h
  have hk : k < eb.edges.toList.length := by simpa using (Array.getElem?_eq_some_iff.mp he).1
  have hsplit : eb.edges.toList = eb.edges.toList.take k ++ e :: eb.edges.toList.drop (k + 1) := by
    have hek : eb.edges.toList[k] = e := by simpa using (Array.getElem?_eq_some_iff.mp he).2
    rw [← hek, List.getElem_cons_drop, List.take_append_drop]
  have hfail : rows.mapM (fun r => do
      return ({ id := r.id, src := ← first'.orderedIndex r.src, dst := ← second'.orderedIndex r.dst } : Edge)) =
      .error err := by
    rw [hrows, List.mapM_map, hsplit, mapM_eq_error]
    refine ⟨_, e, _, rfl, fun x hx => ?_, herr⟩
    obtain ⟨l, hl⟩ := List.mem_iff_getElem?.mp hx
    rw [List.getElem?_take] at hl
    split at hl
    · rename_i hlk
      have hx : eb.edges[l]? = some x := by simpa using hl
      have hsrc := src_mem_of_not_strands h hx fun id hs => hbefore l hlk ⟨id, Or.inl hs⟩
      have hdst := dst_mem_of_not_strands h hx fun id ht => hbefore l hlk ⟨id, Or.inr ht⟩
      exact ⟨_, by simp [Dependency.orderedIndex_of_mem hsrc, Dependency.orderedIndex_of_mem hdst, bind,
        Except.bind, pure, Except.pure]; rfl⟩
    · cases hl
  unfold ofRows
  rw [hfail]
  rfl

/-- The source of the first edge that is lost is stranded. -/
theorem ofRows_of_strand_src (hstrand : eb.Strands Edge.src first.vertices first'.vertices k id)
    (hbefore : ∀ l, l < k → ¬ eb.Loses first.vertices second.vertices first'.vertices second'.vertices l) :
    ofRows first' second' rows = .error (.invalidReference first'.guid id) := by
  obtain ⟨e, he, hid, hmiss⟩ := hstrand
  rw [← Dependency.idAt_eq hid] at hmiss ⊢
  refine ofRows_of_first h he hbefore ?_
  simp [Dependency.orderedIndex_of_not_mem hmiss, bind, Except.bind]

/-- Only the destination of the first edge that is lost is stranded. -/
theorem ofRows_of_strand_dst (hstrand : eb.Strands Edge.dst second.vertices second'.vertices k id)
    (hsrc : ∀ id, ¬ eb.Strands Edge.src first.vertices first'.vertices k id)
    (hbefore : ∀ l, l < k → ¬ eb.Loses first.vertices second.vertices first'.vertices second'.vertices l) :
    ofRows first' second' rows = .error (.invalidReference second'.guid id) := by
  obtain ⟨e, he, hid, hmiss⟩ := hstrand
  have hmem := src_mem_of_not_strands h he hsrc
  rw [← Dependency.idAt_eq hid] at hmiss ⊢
  refine ofRows_of_first h he hbefore ?_
  simp [Dependency.orderedIndex_of_mem hmem, Dependency.orderedIndex_of_not_mem hmiss, bind, Except.bind]

end Reading

end EdgeBundle

end GraphDisk
