import Mathlib.Data.List.Induction
import Mathlib.Data.List.NodupEquivFin
import GraphDisk.VertexSet

/-!
# The ordered index of an external id

The ordered index of an external id is the last position at which it occurs (`VertexSet.orderedIndex?_eq_some`); there
is none iff the id does not occur (`VertexSet.orderedIndex?_eq_none`). The external id at the ordered index of an id is
that id again (`VertexSet.externalId?_orderedIndex?`), and the ordered index of the external id at an index is that
index again if no id occurs twice (`VertexSet.orderedIndex?_externalId?`).

There are as many different ids as vertices iff no id occurs twice (`size_lastPositions`). Otherwise the duplicate that
is reported is the id at the first position whose id occurs again later (`VertexSet.firstDuplicate?_eq_some`), which is
the first position whose id occurs more than once (`isFirstRepeat_iff`). What the two mappings say about each other is
put together in `VertexSet.mappings_determined`.
-/

namespace GraphDisk

/-- The last position of an id. -/
def IsLast (ids : List Int64) (id : Int64) (j : Nat) : Prop := ids[j]? = some id ∧ ∀ k, j < k → ids[k]? ≠ some id

/-- The id at a position occurs again later. -/
def Repeats (ids : List Int64) (id : Int64) (i : Nat) : Prop := ids[i]? = some id ∧ ∃ k, i < k ∧ ids[k]? = some id

/-- The first position whose id occurs again later. -/
def IsFirstRepeat (ids : List Int64) (id : Int64) (i : Nat) : Prop :=
  Repeats ids id i ∧ ∀ k, k < i → ∀ x, ¬ Repeats ids x k

variable {ids : List Int64} {id x : Int64} {i j : Nat}

theorem lastPositions_concat (ids : List Int64) (x : Int64) :
    lastPositions (ids ++ [x]) = (lastPositions ids).insert x ids.length := by
  simp [lastPositions, List.zipIdx_append, List.foldl_append]

theorem isLast_concat_self (ids : List Int64) (x : Int64) : IsLast (ids ++ [x]) x j ↔ j = ids.length := by
  constructor
  · intro h
    have hlt : ¬ j < ids.length := fun hlt => h.2 ids.length hlt (by simp)
    have hle : j < (ids ++ [x]).length := (List.getElem?_eq_some_iff.mp h.1).1
    rw [List.length_append, List.length_singleton] at hle
    omega
  · rintro rfl
    refine ⟨by simp, fun k hk => ?_⟩
    rw [List.getElem?_eq_none (by simp; omega)]
    simp

theorem isLast_concat_of_ne (h : x ≠ id) : IsLast (ids ++ [x]) id j ↔ IsLast ids id j := by
  have hsame : ∀ k, (ids ++ [x])[k]? = some id ↔ ids[k]? = some id := fun k => by
    rw [List.getElem?_append]
    split
    · rfl
    · rename_i hk
      rw [List.getElem?_eq_none (Nat.not_lt.mp hk)]
      rw [List.getElem?_singleton]
      split <;> simp [h]
  unfold IsLast
  simp only [ne_eq, hsame]

/-- **The map holds the last position of every id.** -/
theorem getElem?_lastPositions (ids : List Int64) : (lastPositions ids)[id]? = some j ↔ IsLast ids id j := by
  induction ids using List.reverseRecOn with
  | nil => simp [lastPositions, IsLast]
  | append_singleton ids x ih =>
    rw [lastPositions_concat, Std.HashMap.getElem?_insert]
    by_cases hx : x = id
    · subst hx
      rw [isLast_concat_self]
      simp [eq_comm]
    · rw [isLast_concat_of_ne hx, ← ih]
      simp [hx]

theorem getElem?_lastPositions_none (ids : List Int64) : (lastPositions ids)[id]? = none ↔ id ∉ ids := by
  induction ids using List.reverseRecOn with
  | nil => simp [lastPositions]
  | append_singleton ids x ih =>
    rw [lastPositions_concat, Std.HashMap.getElem?_insert]
    by_cases hx : x = id
    · simp [hx]
    · simp [hx, ih, Ne.symm hx]

/-- An id that occurs has a last position. -/
theorem exists_isLast (h : id ∈ ids) : ∃ i, IsLast ids id i := by
  cases hi : (lastPositions ids)[id]? with
  | none => exact absurd h ((getElem?_lastPositions_none ids).mp hi)
  | some i => exact ⟨i, (getElem?_lastPositions ids).mp hi⟩

/-- The last position in a part is the last one at all if the id does not occur behind the part. -/
theorem IsLast.within {behind : List Int64} (h : IsLast ids id i) (before : List Int64) (hn : id ∉ behind) :
    IsLast (before ++ (ids ++ behind)) id (before.length + i) := by
  have hpart : ∀ k, (before ++ (ids ++ behind))[before.length + k]? = (ids ++ behind)[k]? := fun k => by
    rw [List.getElem?_append_right (Nat.le_add_right _ _), Nat.add_sub_cancel_left]
  have hi : i < ids.length := (List.getElem?_eq_some_iff.mp h.1).1
  refine ⟨by rw [hpart, List.getElem?_append_left hi, h.1], fun k hk hid => ?_⟩
  obtain ⟨l, rfl⟩ : ∃ l, k = before.length + l := ⟨k - before.length, by omega⟩
  rw [hpart] at hid
  by_cases hl : l < ids.length
  · rw [List.getElem?_append_left hl] at hid
    exact h.2 l (by omega) hid
  · rw [List.getElem?_append_right (by omega)] at hid
    exact hn (List.mem_of_getElem? hid)

/-- A position is the last one of its id, or its id occurs again later. -/
theorem repeats_iff (h : ids[i]? = some id) : Repeats ids id i ↔ ¬ IsLast ids id i := by
  simp only [Repeats, IsLast, h, true_and, not_forall, ne_eq, Decidable.not_not, exists_prop]

/-- No position repeats iff no id occurs twice. -/
theorem nodup_iff_not_repeats : ids.Nodup ↔ ∀ i id, ¬ Repeats ids id i := by
  rw [List.Nodup, List.pairwise_iff_getElem]
  constructor
  · rintro h i id ⟨hi, k, hk, hid⟩
    obtain ⟨hlt, rfl⟩ := List.getElem?_eq_some_iff.mp hi
    obtain ⟨hlt', hsame⟩ := List.getElem?_eq_some_iff.mp hid
    exact h i k hlt hlt' hk hsame.symm
  · intro h i k hi hlt hk hsame
    exact h i ids[i] ⟨List.getElem?_eq_getElem hi, k, hk, by rw [hsame, List.getElem?_eq_getElem hlt]⟩

/-- An id occurs more than once iff it occurs again after some position. -/
theorem one_lt_count : 1 < ids.count id ↔ ∃ i, Repeats ids id i := by
  rw [← Nat.succ_le_iff, ← List.duplicate_iff_two_le_count, List.duplicate_iff_exists_distinct_get]
  constructor
  · rintro ⟨i, k, hik, hi, hk⟩
    exact ⟨i, List.getElem?_eq_some_iff.mpr ⟨i.isLt, hi.symm⟩, k, hik, List.getElem?_eq_some_iff.mpr ⟨k.isLt, hk.symm⟩⟩
  · rintro ⟨i, hi, k, hik, hk⟩
    obtain ⟨hi', hi⟩ := List.getElem?_eq_some_iff.mp hi
    obtain ⟨hk', hk⟩ := List.getElem?_eq_some_iff.mp hk
    exact ⟨⟨i, hi'⟩, ⟨k, hk'⟩, hik, hi.symm, hk.symm⟩

/-- An id that occurs more than once repeats at this position, or at one before. -/
theorem repeats_before (hi : ids[i]? = some id) (hc : 1 < ids.count id) : ∃ k, k ≤ i ∧ Repeats ids id k := by
  obtain ⟨k, hk, l, hkl, hl⟩ := one_lt_count.mp hc
  rcases Nat.lt_or_ge i l with hlt | hge
  · exact ⟨i, Nat.le_refl i, hi, l, hlt, hl⟩
  · exact ⟨k, by omega, hk, l, hkl, hl⟩

/-- **The first position whose id occurs again later** is the first one whose id occurs more than once anywhere. -/
theorem isFirstRepeat_iff : IsFirstRepeat ids id i ↔
    ids[i]? = some id ∧ 1 < ids.count id ∧ ∀ k, k < i → ∀ x, ids[k]? = some x → ids.count x = 1 := by
  constructor
  · rintro ⟨hi, hbefore⟩
    refine ⟨hi.1, one_lt_count.mpr ⟨i, hi⟩, fun k hk x hx => ?_⟩
    have hpos : 0 < ids.count x := List.count_pos_iff.mpr (List.mem_of_getElem? hx)
    have hnot : ¬ 1 < ids.count x := by
      intro hc
      obtain ⟨l, hl, hrep⟩ := repeats_before hx hc
      exact hbefore l (by omega) x hrep
    omega
  · rintro ⟨hi, hc, hbefore⟩
    have hfirst : ∀ k, k < i → ∀ x, ¬ Repeats ids x k := by
      intro k hk x hx
      have hone := hbefore k hk x hx.1
      have htwo := one_lt_count.mpr ⟨k, hx⟩
      omega
    obtain ⟨k, hk, hrep⟩ := repeats_before hi hc
    rcases Nat.lt_or_eq_of_le hk with hlt | rfl
    · exact absurd hrep (hfirst k hlt id)
    · exact ⟨hrep, hfirst⟩

/-- **There are as many ids as positions** iff no id occurs twice. -/
theorem size_lastPositions (ids : List Int64) :
    (lastPositions ids).size ≤ ids.length ∧ ((lastPositions ids).size = ids.length ↔ ids.Nodup) := by
  -- an id that is there already is the only reason why the map does not grow, and it never catches up
  induction ids using List.reverseRecOn with
  | nil => simp [lastPositions]
  | append_singleton ids x ih =>
    obtain ⟨hle, hiff⟩ := ih
    have hmem : x ∈ lastPositions ids ↔ x ∈ ids := by
      rw [← Std.HashMap.isSome_getElem?_iff_mem, Option.isSome_iff_ne_none, ne_eq, getElem?_lastPositions_none,
        Decidable.not_not]
    have hnodup : (ids ++ [x]).Nodup ↔ ids.Nodup ∧ x ∉ ids := by
      rw [List.Perm.nodup_iff List.perm_append_comm, List.singleton_append, List.nodup_cons]
      exact and_comm
    rw [lastPositions_concat, Std.HashMap.size_insert, List.length_append, List.length_singleton, hnodup, ← hiff]
    by_cases hx : x ∈ ids
    · rw [if_pos (hmem.mpr hx)]
      exact ⟨by omega, fun h => absurd h (by omega), fun h => absurd hx h.2⟩
    · rw [if_neg (fun h => hx (hmem.mp h))]
      exact ⟨by omega, by simp only [hx, not_false_eq_true, and_true]; omega⟩

namespace VertexSet

variable {vs : VertexSet}

theorem orderedIndex?_eq_some : vs.orderedIndex? id = some j ↔
    vs.externalId? j = some id ∧ ∀ k, j < k → vs.externalId? k ≠ some id := by
  unfold orderedIndex? externalId?
  rw [vs.positions_eq, getElem?_lastPositions, IsLast]
  simp only [Array.getElem?_toList]

theorem orderedIndex?_eq_none : vs.orderedIndex? id = none ↔ id ∉ vs.ids := by
  unfold orderedIndex?
  rw [vs.positions_eq, getElem?_lastPositions_none, Array.mem_toList_iff]

/-- An id that occurs has an ordered index. -/
theorem orderedIndex?_isSome (h : id ∈ vs.ids) : ∃ j, vs.orderedIndex? id = some j := by
  cases hj : vs.orderedIndex? id with
  | none => exact absurd h (orderedIndex?_eq_none.mp hj)
  | some j => exact ⟨j, rfl⟩

theorem externalId?_orderedIndex? (h : vs.orderedIndex? id = some j) : vs.externalId? j = some id :=
  (orderedIndex?_eq_some.mp h).1

theorem mem_of_externalId? (h : vs.externalId? i = some id) : id ∈ vs.ids := Array.mem_of_getElem? h

theorem lt_size_of_externalId? (h : vs.externalId? i = some id) : i < vs.size := (Array.getElem?_eq_some_iff.mp h).1

theorem orderedIndex?_lt (h : vs.orderedIndex? id = some j) : j < vs.size :=
  lt_size_of_externalId? (externalId?_orderedIndex? h)

theorem orderedIndex?_externalId? (hn : vs.ids.toList.Nodup) (h : vs.externalId? i = some id) :
    vs.orderedIndex? id = some i := by
  rw [orderedIndex?_eq_some]
  refine ⟨h, fun k hk hid => ?_⟩
  obtain ⟨hi, hi'⟩ := Array.getElem?_eq_some_iff.mp h
  obtain ⟨hk', hk''⟩ := Array.getElem?_eq_some_iff.mp hid
  have hne := List.pairwise_iff_getElem.mp hn i k (by simpa using hi) (by simpa using hk') hk
  simp [hi', hk''] at hne

theorem orderedIndex?_eq_some_iff_isLast : vs.orderedIndex? id = some j ↔ IsLast vs.ids.toList id j := by
  unfold orderedIndex?
  rw [vs.positions_eq, getElem?_lastPositions]

/-! ## Duplicates -/

theorem hasUniqueIds_iff : vs.hasUniqueIds = true ↔ vs.ids.toList.Nodup := by
  unfold hasUniqueIds
  rw [beq_iff_eq, vs.positions_eq, ← Array.length_toList]
  exact (size_lastPositions _).2

/-- The search for a position that its id is not mapped to finds the first position whose id occurs again later. -/
theorem find?_orderedIndex? : (vs.ids.toList.zipIdx.find? fun (id, i) => vs.orderedIndex? id != some i) = some (id, i) ↔
    IsFirstRepeat vs.ids.toList id i := by
  have hstray : ∀ {x k}, vs.ids.toList[k]? = some x →
      ((vs.orderedIndex? x != some k) = true ↔ Repeats vs.ids.toList x k) := by
    intro x k hk
    rw [bne_iff_ne, ne_eq, orderedIndex?_eq_some_iff_isLast, repeats_iff hk]
  have hget : ∀ {k} (_ : k < vs.ids.toList.length) (_ : k < vs.ids.toList.zipIdx.length),
      vs.ids.toList.zipIdx[k] = (vs.ids.toList[k], k) := fun _ _ => by simp
  rw [List.find?_eq_some_iff_getElem]
  constructor
  · rintro ⟨hp, k, hk, hpair, hbefore⟩
    have hk' : k < vs.ids.toList.length := by simpa using hk
    rw [hget hk' hk] at hpair
    cases hpair
    refine ⟨(hstray (List.getElem?_eq_getElem hk')).mp hp, fun l hl x hx => ?_⟩
    obtain ⟨hl', rfl⟩ := List.getElem?_eq_some_iff.mp hx.1
    have hno := hbefore l hl
    rw [hget hl' (Nat.lt_trans hl hk), Bool.not_eq_true', Bool.eq_false_iff] at hno
    exact hno ((hstray hx.1).mpr hx)
  · rintro ⟨hrep, hbefore⟩
    obtain ⟨hi, rfl⟩ := List.getElem?_eq_some_iff.mp hrep.1
    have hi' : i < vs.ids.toList.zipIdx.length := by simpa using hi
    refine ⟨(hstray hrep.1).mpr hrep, i, hi', hget hi hi', fun l hl => ?_⟩
    have hl' : l < vs.ids.toList.length := Nat.lt_trans hl hi
    rw [hget hl' (Nat.lt_trans hl hi'), Bool.not_eq_true', Bool.eq_false_iff]
    exact fun hx => hbefore l hl _ ((hstray (List.getElem?_eq_getElem hl')).mp hx)

/-- **The duplicate that is reported** is the id at the first position whose id occurs again later. -/
theorem firstDuplicate?_eq_some : vs.firstDuplicate? = some id ↔ ∃ i, IsFirstRepeat vs.ids.toList id i := by
  have hsearch : ((vs.ids.toList.zipIdx.find? fun (id, i) => vs.orderedIndex? id != some i).map Prod.fst) = some id ↔
      ∃ i, IsFirstRepeat vs.ids.toList id i := by
    simp only [Option.map_eq_some_iff, Prod.exists, find?_orderedIndex?]
    exact ⟨fun ⟨_, i, h, hid⟩ => ⟨i, hid ▸ h⟩, fun ⟨i, h⟩ => ⟨id, i, h, rfl⟩⟩
  unfold firstDuplicate?
  split
  · rename_i hunique
    have hnot := nodup_iff_not_repeats.mp (hasUniqueIds_iff.mp hunique)
    constructor
    · intro h
      cases h
    · rintro ⟨i, hi⟩
      exact absurd hi.1 (hnot i id)
  · exact hsearch

/-- **No duplicate is reported** iff no id occurs twice. -/
theorem firstDuplicate?_eq_none : vs.firstDuplicate? = none ↔ vs.ids.toList.Nodup := by
  rw [Option.eq_none_iff_forall_ne_some, nodup_iff_not_repeats]
  simp only [ne_eq, firstDuplicate?_eq_some, not_exists]
  constructor
  · intro h i
    -- the positions before this one do not repeat, so it would be the first one that does
    induction i using Nat.strongRecOn with
    | ind i ih => exact fun id hid => h id i ⟨hid, ih⟩
  · exact fun h id i hi => h i id hi.1

/-! ## Both mappings together -/

/-- At an index whose id is known, the two mappings lead back iff no later index has the same id. -/
theorem orderedIndex?_eq_self (h : vs.externalId? i = some id) :
    vs.orderedIndex? id = some i ↔ ∀ k, i < k → vs.externalId? k ≠ some id := by
  rw [orderedIndex?_eq_some]
  exact and_iff_right h

/-- **The two mappings lead back from every index** iff no id occurs twice. -/
theorem nodup_iff_orderedIndex? : vs.ids.toList.Nodup ↔
    ∀ i, i < vs.size → (vs.externalId? i).bind vs.orderedIndex? = some i := by
  constructor
  · intro hn i hi
    have hid : vs.externalId? i = some vs.ids[i] := Array.getElem?_eq_getElem hi
    rw [hid, Option.bind_some]
    exact orderedIndex?_externalId? hn hid
  · intro h
    rw [nodup_iff_not_repeats]
    rintro i id ⟨hi, k, hik, hk⟩
    rw [Array.getElem?_toList] at hi hk
    have hback := h i (lt_size_of_externalId? hi)
    rw [show vs.externalId? i = some id from hi, Option.bind_some, orderedIndex?_eq_self hi] at hback
    exact hback k hik hk

/-- **The two mappings of a vertex set determine each other**, whatever list of ids it was made of. The ordered index of
an id is its last position, and there is one iff the id occurs. The external id there is the id again; the other way
round an index is found again iff its id does not occur later. Counting tells whether every index is found again, which
is so iff no id occurs twice, and otherwise the search finds the id at the first position whose id occurs more than
once. -/
theorem mappings_determined (ids : List Int64) :
    let vs := ofIds ids.toArray
    (∀ id, (∃ j, vs.orderedIndex? id = some j) ↔ id ∈ ids) ∧
    (∀ id j, vs.orderedIndex? id = some j ↔ IsLast ids id j) ∧
    (∀ id ∈ ids, (vs.orderedIndex? id).bind vs.externalId? = some id) ∧
    (∀ i id, vs.externalId? i = some id ↔ ids[i]? = some id) ∧
    (∀ (i : Nat) id, ids[i]? = some id → (vs.orderedIndex? id = some i ↔ ∀ k, i < k → ids[k]? ≠ some id)) ∧
    (vs.hasUniqueIds = true ↔ ids.Nodup) ∧
    (vs.hasUniqueIds = true ↔ ∀ i, i < ids.length → (vs.externalId? i).bind vs.orderedIndex? = some i) ∧
    (vs.firstDuplicate? = none ↔ ids.Nodup) ∧
    ∀ id, vs.firstDuplicate? = some id ↔ ∃ i : Nat, ids[i]? = some id ∧ 1 < ids.count id ∧
      ∀ k : Nat, k < i → ∀ x, ids[k]? = some x → ids.count x = 1 := by
  intro vs
  have hids : vs.ids.toList = ids := rfl
  have hget : ∀ i id, vs.externalId? i = some id ↔ ids[i]? = some id := by
    intro i id
    simp [vs, externalId?, ofIds]
  have hlast : ∀ id j, vs.orderedIndex? id = some j ↔ IsLast ids id j := by
    intro id j
    rw [orderedIndex?_eq_some_iff_isLast, hids]
  have hmem : ∀ id, (∃ j, vs.orderedIndex? id = some j) ↔ id ∈ ids := by
    intro id
    rw [← Option.ne_none_iff_exists', ne_eq, orderedIndex?_eq_none, Decidable.not_not, ← Array.mem_toList_iff, hids]
  have hunique : vs.hasUniqueIds = true ↔ ids.Nodup := by rw [hasUniqueIds_iff, hids]
  refine ⟨hmem, hlast, fun id hid => ?_, hget, fun i id hi => ?_, hunique, ?_, ?_, fun id => ?_⟩
  · obtain ⟨j, hj⟩ := (hmem id).mpr hid
    rw [hj, Option.bind_some]
    exact externalId?_orderedIndex? hj
  · rw [hlast, IsLast]
    exact and_iff_right hi
  · rw [hasUniqueIds_iff, nodup_iff_orderedIndex?]
    exact Iff.rfl
  · rw [firstDuplicate?_eq_none, hids]
  · rw [firstDuplicate?_eq_some, hids]
    exact exists_congr fun i => isFirstRepeat_iff

/-- The first of three ids comes back at the end, and the second one is alone. -/
theorem mappings_of_three :
    (ofIds #[7, 8, 7]).orderedIndex? 7 = some 2 ∧ (ofIds #[7, 8, 7]).orderedIndex? 8 = some 1 ∧
    (ofIds #[7, 8, 7]).hasUniqueIds = false ∧ (ofIds #[7, 8, 7]).firstDuplicate? = some 7 := by
  obtain ⟨-, hlast, -, -, hback, hunique, -, -, hfirst⟩ := mappings_determined [7, 8, 7]
  refine ⟨(hback 2 7 rfl).mpr fun k hk => ?_, (hback 1 8 rfl).mpr fun k hk => ?_, ?_,
    (hfirst 7).mpr ⟨0, rfl, by decide, ?_⟩⟩
  · rw [List.getElem?_eq_none (by simp; omega)]
    simp
  · match k, hk with
    | 2, _ => decide
    | k + 3, _ => simp
  · rw [Bool.eq_false_iff]
    exact fun h => absurd (hunique.mp h) (by decide)
  · intro k hk
    omega

end VertexSet

end GraphDisk
