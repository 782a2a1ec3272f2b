import GraphDisk.Proofs.FileSystem.WriteFile
import GraphDisk.Proofs.UnorderedDisk.FailedRead
import GraphDisk.Proofs.Workers

/-!
# Rows that were saved are read again

Rows are added to a buffer one by one or several at once, and the buffer holds them in the order in which they were
added (`RowBuffer.toList_collected`). Writing the buffer into a file either does nothing or leaves the whole file there
(`FileSystem.writeShardBy_eq`); it does nothing only if no file can be made at the path. The file that is left is a
shard with one row group, and it gives just these rows back, bit by bit and however many threads read them
(`FileSystem.saved_rows`).
-/

namespace GraphDisk

variable {s : Schema}

/-! ## Collecting -/

namespace RowBuffer

/-- What one call adds to a buffer. -/
inductive Addition (s : Schema)
  | one (r : s.Row)
  | several (rs : List s.Row)

namespace Addition

/-- The rows that are added. -/
def rows : Addition s → List s.Row
  | one r => [r]
  | several rs => rs

/-- The buffer after the call. -/
def perform (b : RowBuffer s) : Addition s → RowBuffer s
  | one r => b.add r
  | several rs => b.extend rs

@[simp] theorem toList_perform (b : RowBuffer s) (a : Addition s) : (perform b a).toList = b.toList ++ a.rows := by
  cases a <;> simp [perform, rows]

end Addition

/-- The buffer after some calls. -/
def collected (additions : List (Addition s)) : RowBuffer s := additions.foldl Addition.perform empty

theorem toList_foldl (additions : List (Addition s)) (b : RowBuffer s) :
    (additions.foldl Addition.perform b).toList = b.toList ++ additions.flatMap Addition.rows := by
  induction additions generalizing b with
  | nil => simp
  | cons a additions ih => rw [List.foldl_cons, ih, Addition.toList_perform, List.flatMap_cons, List.append_assoc]

/-- **A buffer holds the rows in the order in which they were added**, by however many calls. -/
theorem toList_collected (additions : List (Addition s)) :
    (collected additions).toList = additions.flatMap Addition.rows := by
  rw [collected, toList_foldl, toList_empty, List.nil_append]

theorem length_toList (b : RowBuffer s) : b.toList.length = b.size := Array.length_toList

end RowBuffer

/-! ## Writing -/

namespace FileSystem

variable {fs after created : FileSystem} {p : Path} {codec : CodecConfig} {order : Schedule}
  {noThreads : Option IoFault} {rows : RowBuffer s}

/-- **A shard is written as if by one thread, or nothing is changed**, if threads can be started where they are needed.
The file that is made first is not left empty. -/
theorem writeShardBy_eq (hf : order.Fair) (ht : codec.spreads rows.size = true → noThreads = none) :
    fs.writeShardBy codec order p rows noThreads =
      match fs.writeShard p rows with
      | .ok after => (after, .ok ⟨s, rows.size, Content.tableSize⟩)
      | .error e => (fs, .error e) := by
  have htable : rows.table = .ok (Table.holding s rows.toList) := Table.ofRows_eq s rows.toList
  rw [← RowBuffer.length_toList] at ht
  unfold writeShardBy writeShard
  rw [Table.ofRowsBy_eq hf codec s rows.toList ht, htable]
  cases hcreated : fs.writeFile p .empty with
  | ok created =>
    obtain ⟨after, hwritten, -⟩ := exists_writeFile hcreated (.table (Table.holding s rows.toList))
    simp only [hwritten, bind, Except.bind]
    rfl
  | error fault =>
    simp only [writeFile_error hcreated (.table (Table.holding s rows.toList)), bind, Except.bind]
    rfl

/-- If threads are needed and cannot be started, the file that is made first is left empty. -/
theorem writeShardBy_of_noThreads {fault : IoFault} (hc : fs.writeFile p .empty = .ok created)
    (ht : codec.spreads rows.size = true) :
    fs.writeShardBy codec order p rows (some fault) = (created, .error (.io fault)) := by
  rw [← RowBuffer.length_toList] at ht
  unfold writeShardBy Table.ofRowsBy
  rw [hc, ht]
  rfl

/-- A shard is written only if threads are started where they are needed. -/
theorem started_of_writeShardBy {written : ShardMeta}
    (h : fs.writeShardBy codec order p rows noThreads = (after, .ok written)) :
    codec.spreads rows.size = true → noThreads = none := by
  intro ht
  cases noThreads with
  | none => rfl
  | some fault =>
    cases hc : fs.writeFile p .empty with
    | ok created =>
      rw [writeShardBy_of_noThreads hc ht] at h
      cases h
    | error fault =>
      unfold writeShardBy at h
      rw [hc] at h
      cases h

/-- A buffer can be written wherever a file can be made. -/
theorem writeShard_eq_ok (hc : fs.writeFile p .empty = .ok created) (rows : RowBuffer s) :
    ∃ after, fs.writeShard p rows = .ok after ∧ after.find p = .ok (.file (.table (Table.holding s rows.toList))) := by
  obtain ⟨after, hwritten, hfound⟩ := exists_writeFile hc (.table (Table.holding s rows.toList))
  have htable : rows.table = .ok (Table.holding s rows.toList) := Table.ofRows_eq s rows.toList
  refine ⟨after, ?_, hfound⟩
  unfold writeShard
  rw [htable]
  simp only [bind, Except.bind, hwritten]
  rfl

/-! ## Reading -/

/-- **Rows that were saved are read again.** For every schema, all rows and every way of adding them: no cell is of the
wrong type, and the file can be written wherever a file can be made, if threads can be started where they are needed.
What is then opened is a shard of the schema with one row group. Whoever reads it gets the same rows in the same order;
as rows of another schema it cannot be read. -/
theorem saved_rows {s : Schema} (additions : List (RowBuffer.Addition s)) (codec : CodecConfig) {order : Schedule}
    (hf : order.Fair) {noThreads : Option IoFault}
    (ht : codec.spreads (additions.flatMap RowBuffer.Addition.rows).length = true → noThreads = none)
    {fs created : FileSystem} {p : Path} (hc : fs.writeFile p .empty = .ok created) :
    let rows := additions.flatMap RowBuffer.Addition.rows
    (∀ column i, (column, i) ∈ s.columns.zipIdx → ∃ values, Table.gather s rows i column.type = .ok values) ∧
      ∃ after written, fs.writeShardBy codec order p (RowBuffer.collected additions) noThreads = (after, .ok written) ∧
        written.schema = s ∧ written.rowCount = rows.length ∧
        ∃ shard, after.openShard p = .ok shard ∧ shard.schema = s ∧ shard.table.groups.length = 1 ∧
          shard.table.rowCount = rows.length ∧
          ∀ (codec' : CodecConfig) (order' : Schedule) (noThreads' : Option IoFault) (room : Nat),
            shard.readRowsBy codec' order' s noThreads' room = .ok rows ∧
            ∀ s', s' ≠ s → shard.readRowsBy codec' order' s' noThreads' room =
              .error (.invalidFormat (.otherSchema s' s)) := by
  intro rows
  have hrows : (RowBuffer.collected additions).toList = rows := RowBuffer.toList_collected additions
  have hlength : (RowBuffer.collected additions).size = rows.length := by rw [← RowBuffer.length_toList, hrows]
  obtain ⟨after, hwritten, hfound⟩ := writeShard_eq_ok hc (RowBuffer.collected additions)
  rw [hrows] at hfound
  refine ⟨fun column i h => ⟨_, Table.gather_eq h rows⟩, after, ⟨s, _, Content.tableSize⟩, ?_, rfl, hlength, ?_⟩
  · rw [writeShardBy_eq hf (by rw [hlength]; exact ht), hwritten]
    rfl
  refine ⟨Shard.holding s rows, openShard_eq_ok.mpr ⟨_, hfound, Shard.ofTable_holding s rows⟩, rfl, rfl, rfl, ?_⟩
  intro codec' order' noThreads' room
  refine ⟨Shard.readRowsBy_holding .., fun s' hs' => ?_⟩
  have hother : (Shard.holding s rows).schema ≠ s' := fun h => hs' h.symm
  unfold Shard.readRowsBy
  rw [if_neg hother]
  rfl

/-- Three rows in two calls, two of them of one vertex: a number that is none, the lesser zero and the other zero. -/
def oddDoubles : List (RowBuffer.Addition .doubleAttribute) :=
  [.several [], .one ⟨7, ⟨0x7ff8000000000001⟩⟩, .several [⟨-1, ⟨0x8000000000000000⟩⟩, ⟨7, .zero⟩]]

/-- They are written over another file by two threads, and read by one. -/
theorem saved_rows_of_doubles : ∃ created after written shard,
    writeFile ⟨[("f", .file .empty)], []⟩ ⟨"f"⟩ .empty = .ok created ∧
    writeShardBy ⟨2, 0⟩ (fun n => (List.range n).reverse) ⟨[("f", .file .empty)], []⟩ ⟨"f"⟩
      (RowBuffer.collected oddDoubles) =
      (after, .ok written) ∧ written.rowCount = 3 ∧ after.openShard ⟨"f"⟩ = .ok shard ∧
    shard.readRowsBy ⟨1, 0⟩ List.range .doubleAttribute =
      .ok [⟨7, ⟨0x7ff8000000000001⟩⟩, ⟨-1, ⟨0x8000000000000000⟩⟩, ⟨7, .zero⟩] ∧
    shard.readRowsBy ⟨1, 0⟩ List.range .stringAttribute =
      .error (.invalidFormat (.otherSchema .stringAttribute .doubleAttribute)) := by
  have hc : writeFile ⟨[("f", .file .empty)], []⟩ ⟨"f"⟩ .empty =
      .ok (put ⟨[("f", .file .empty)], []⟩ [] "f" (.file .empty)) := rfl
  obtain ⟨-, after, written, hwrite, -, hcount, shard, hopen, -, -, -, hread⟩ :=
    saved_rows oddDoubles ⟨2, 0⟩ (fun n => List.reverse_perm _) (fun _ => rfl) hc
  obtain ⟨hrows, hother⟩ := hread ⟨1, 0⟩ List.range none maxAllocation
  exact ⟨_, after, written, shard, hc, hwrite, hcount, hopen, hrows, hother .stringAttribute (by decide)⟩

end FileSystem

end GraphDisk
