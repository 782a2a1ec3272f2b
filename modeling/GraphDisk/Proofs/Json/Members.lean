import GraphDisk.Json.Fields
import GraphDisk.Proofs.Outcome

/-!
# Fields among members

What a record makes of an object depends on its fields only: for each field, on the documents of the members of its name
(`Document.fields?_object`). So the members may change places, and members of other names may come and go. A field that
may be left out may also be written out, with what it has when it is left out; such a member is idle. Along all these
rewritings (`Rewritten`), what is said about the documents of one field stays true (`Rewritten.under`).
-/

namespace GraphDisk.Json

namespace Document

variable {name key : String} {d : Document} {ms : List (Spelling × Document)}

/-- The documents of the members of a name, in order. -/
def under (name : String) (ms : List (Spelling × Document)) : List Document :=
  ms.filterMap fun (key, d) => if key = some name then some d else none

@[simp] theorem under_nil : under name [] = [] := rfl

@[simp] theorem under_cons :
    under name ((some key, d) :: ms) = if key = name then d :: under name ms else under name ms := by
  by_cases h : key = name <;> simp [under, h]

@[simp] theorem under_append {ms' : List (Spelling × Document)} :
    under name (ms ++ ms') = under name ms ++ under name ms' :=
  List.filterMap_append

/-- **The name of every member is a string.** -/
def Named (ms : List (Spelling × Document)) : Prop := ∀ m ∈ ms, m.1.isSome

@[simp] theorem named_nil : Named [] := by simp [Named]

@[simp] theorem named_cons : Named ((some key, d) :: ms) ↔ Named ms := by simp [Named]

@[simp] theorem named_append {ms' : List (Spelling × Document)} : Named (ms ++ ms') ↔ Named ms ∧ Named ms' :=
  List.forall_mem_append

theorem named?_eq_some {ns : List (String × Document)} :
    named? ms = some ns ↔ ms = ns.map fun n => (some n.1, n.2) := by
  have hmember : ∀ (m : Spelling × Document) (n : String × Document),
      m.1.map (fun key => (key, m.2)) = some n ↔ m = (some n.1, n.2) := by
    rintro ⟨_ | key, d⟩ ⟨name, d'⟩ <;> simp
  simp only [named?, mapM_eq_some, hmember]
  rw [← List.forall₂_map_right_iff, List.forall₂_eq_eq_eq]

theorem exists_names : ∀ {ms : List (Spelling × Document)}, Named ms →
    ∃ ns : List (String × Document), ms = ns.map fun n => (some n.1, n.2)
  | [], _ => ⟨[], rfl⟩
  | (none, _) :: _, h => absurd (h _ List.mem_cons_self) (by simp)
  | (some key, d) :: ms, h => by
    obtain ⟨ns, rfl⟩ := exists_names fun m hm => h m (List.mem_cons_of_mem _ hm)
    exact ⟨(key, d) :: ns, rfl⟩

/-- **A field is given** by the only member of its name, if there is one. -/
theorem field?_eq_some {ns : List (String × Document)} {field : Option Document} :
    field? name ns = some field ↔ under name (ns.map fun n => (some n.1, n.2)) = field.toList := by
  have hunder : under name (ns.map fun n => (some n.1, n.2)) = (ns.filter (·.1 == name)).map (·.2) := by
    induction ns with
    | nil => rfl
    | cons n ns ih =>
      rw [List.map_cons, under_cons, ih, List.filter_cons]
      simp only [beq_iff_eq]
      split <;> rfl
  rw [hunder, field?]
  generalize ns.filter (·.1 == name) = found
  rcases found with _ | ⟨n, _ | ⟨n', rest⟩⟩ <;> cases field <;> simp

/-- **The fields of an object**: no name of a field may occur twice, and a field is given by the member of its name. -/
theorem fields?_object {names : List String} {fields : List (Option Document)} :
    fields? names (.object ms) = some fields ↔
      Named ms ∧ (∀ name ∈ names, (under name ms).length ≤ 1) ∧
        fields = names.map fun name => (under name ms).head? := by
  have hfield : ∀ (name : String) (field : Option Document),
      under name ms = field.toList ↔ (under name ms).length ≤ 1 ∧ field = (under name ms).head? := fun name field => by
    rcases under name ms with _ | ⟨d, _ | ⟨d', ds⟩⟩ <;> cases field <;> simp [eq_comm]
  have hgiven : List.Forall₂ (fun name field => under name ms = field.toList) names fields ↔
      (∀ name ∈ names, (under name ms).length ≤ 1) ∧ fields = names.map fun name => (under name ms).head? := by
    simp only [hfield, List.forall₂_and_left]
    rw [eq_comm, ← List.forall₂_eq_eq_eq, List.forall₂_map_left_iff]
    simp only [eq_comm]
  rw [← hgiven]
  simp only [fields?, Option.bind_eq_bind, Option.bind_eq_some_iff, mapM_eq_some, named?_eq_some, field?_eq_some]
  constructor
  · rintro ⟨ns, rfl, hfields⟩
    refine ⟨fun m hm => ?_, hfields⟩
    obtain ⟨n, -, rfl⟩ := List.mem_map.mp hm
    rfl
  · rintro ⟨hnamed, hfields⟩
    obtain ⟨ns, rfl⟩ := exists_names hnamed
    exact ⟨ns, rfl, hfields⟩

/-- A record is read from an object with the members of each field name. -/
theorem bind_fields?_object {α : Type} {names : List String} {record : List (Option Document) → Option α} {a : α} :
    (fields? names (.object ms)).bind record = some a ↔ Named ms ∧ (∀ name ∈ names, (under name ms).length ≤ 1) ∧
      record (names.map fun name => (under name ms).head?) = some a := by
  simp only [Option.bind_eq_some_iff, fields?_object]
  constructor
  · rintro ⟨fields, ⟨hnamed, honce, rfl⟩, hrecord⟩
    exact ⟨hnamed, honce, hrecord⟩
  · rintro ⟨hnamed, honce, hrecord⟩
    exact ⟨_, ⟨hnamed, honce, rfl⟩, hrecord⟩

/-! ## What the members of a name say -/

section Saying

variable {α : Type} {read : Document → Option α} {byDefault a : α} {ds : List Document} {text : String}

/-- **What the members of one name say of a field that has a default**: the default if there are none, and else what the
only one reads as. -/
inductive OrDefault (read : Document → Option α) (byDefault : α) : List Document → α → Prop
  | absent : OrDefault read byDefault [] byDefault
  | given {d : Document} {a : α} : read d = some a → OrDefault read byDefault [d] a

theorem OrDefault.length_le (h : OrDefault read byDefault ds a) : ds.length ≤ 1 := by cases h <;> simp

/-- A default that is written out says no more than nothing. -/
theorem OrDefault.dropped (h : OrDefault read byDefault [d] a) (hd : read d = some byDefault) :
    OrDefault read byDefault [] a := by
  cases h with
  | given ha =>
    cases hd.symm.trans ha
    exact .absent

theorem orDefault?_eq_some (h : ds.length ≤ 1) :
    orDefault? read byDefault ds.head? = some a ↔ OrDefault read byDefault ds a := by
  constructor
  · intro hread
    match ds, h with
    | [], _ =>
      cases hread
      exact .absent
    | [d], _ => exact .given hread
  · intro hsays
    cases hsays with
    | absent => rfl
    | given hd => exact hd

theorem required?_eq_some (h : ds.length ≤ 1) : required? read ds.head? = some a ↔ ∃ d, ds = [d] ∧ read d = some a := by
  match ds, h with
  | [], _ => simp [required?]
  | [d], _ => simp [required?]

theorem string?_eq_some : d.string? = some text ↔ d = .string (some text) := by
  cases d <;> simp [string?]

end Saying

end Document

/-! ## Members that are rewritten -/

/-- **Ways to rewrite the members of an object**, for a record with the given field names: to change their order, to add
a member of another name, and to drop an idle one. -/
inductive Rewritten (names : List String) (Idle : String → Document → Prop) :
    List (Spelling × Document) → List (Spelling × Document) → Prop
  | reordered {ms ms' : List (Spelling × Document)} : ms.Perm ms' → Rewritten names Idle ms ms'
  | added {name : String} {d : Document} {ms : List (Spelling × Document)} : name ∉ names →
    Rewritten names Idle ms ((some name, d) :: ms)
  | dropped {name : String} {d : Document} {ms : List (Spelling × Document)} : Idle name d →
    Rewritten names Idle ((some name, d) :: ms) ms
  | trans {ms ms' ms'' : List (Spelling × Document)} : Rewritten names Idle ms ms' → Rewritten names Idle ms' ms'' →
    Rewritten names Idle ms ms''

/-- A list of one item at most has no other order. -/
theorem eq_of_perm {α : Type} {as bs : List α} (hlength : as.length ≤ 1) (h : as.Perm bs) : as = bs := by
  match as, hlength with
  | [], _ => exact h.nil_eq
  | [a], _ => exact (List.perm_singleton.mp h.symm).symm

/-- Nothing follows the only item of a list. -/
theorem eq_nil_of_length_cons {α : Type} {a : α} {as : List α} (h : (a :: as).length ≤ 1) : as = [] :=
  List.eq_nil_of_length_eq_zero (Nat.le_zero.mp (Nat.le_of_succ_le_succ h))

namespace Rewritten

open Document

variable {names : List String} {Idle : String → Document → Prop} {ms ms' : List (Spelling × Document)} {name : String}

theorem named (h : Rewritten names Idle ms ms') : Named ms → Named ms' := by
  induction h with
  | reordered hperm => exact fun hnamed m hm => hnamed m (hperm.mem_iff.mpr hm)
  | added => exact named_cons.mpr
  | dropped => exact named_cons.mp
  | trans _ _ ih ih' => exact ih' ∘ ih

/-- **What is said about a field stays true**, if it says that the field is given once at most, and no more of a member
that is idle than of none. -/
theorem under {P : List Document → Prop} (h : Rewritten names Idle ms ms') (hname : name ∈ names)
    (hlength : ∀ ds, P ds → ds.length ≤ 1) (hidle : ∀ d, Idle name d → P [d] → P []) :
    P (under name ms) → P (under name ms') := by
  induction h with
  | reordered hperm =>
    intro hp
    rwa [eq_of_perm (hlength _ hp) (hperm.filterMap _)] at hp
  | @added key d ms hkey =>
    have hne : key ≠ name := fun heq => hkey (heq ▸ hname)
    rw [under_cons, if_neg hne]
    exact id
  | @dropped key d ms hdropped =>
    rw [under_cons]
    split
    · rename_i heq
      subst heq
      intro hp
      -- the idle member was the only one of its name
      have hnone : Document.under key ms = [] := eq_nil_of_length_cons (hlength _ hp)
      rw [hnone] at hp ⊢
      exact hidle d hdropped hp
    · exact id
  | trans _ _ ih ih' => exact ih' ∘ ih

end Rewritten

/-- What a field with a default is said to be stays, if an idle member of its name is the default. -/
theorem Document.OrDefault.rewritten {α : Type} {read : Document → Option α} {byDefault a : α} {names : List String}
    {Idle : String → Document → Prop} {ms ms' : List (Spelling × Document)} {name : String}
    (h : OrDefault read byDefault (under name ms) a) (hms : Rewritten names Idle ms ms') (hname : name ∈ names)
    (hidle : ∀ d, Idle name d → read d = some byDefault) : OrDefault read byDefault (under name ms') a :=
  hms.under (P := (OrDefault read byDefault · a)) hname (fun _ h => h.length_le)
    (fun d hd h => h.dropped (hidle d hd)) h

end GraphDisk.Json
