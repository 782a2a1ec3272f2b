import GraphDisk.Proofs.Shard.ForeignRows

/-!
# Row listings

Listing the rows of a shard goes through its groups and stops within one of them when the limit is reached. Each step
adds the texts of one row (`Shard.formatGroup_eq`), and a run over all groups has the first rows of the file, whichever
group they are in (`Shard.formatRows_eq`).

How a field is written is for the reader of tables to say, and some fields cannot be written at all. So a way to write
fields is given throughout, and the program ends iff a row that is listed has a field that it cannot write
(`Shard.formatRow_fails`).

The listing does not read rows of the schema but takes the fields of a record as they are. A row that is read all the
same has its cells in these fields (`Schema.Row.gives_of_ofRecord`), and a field that gives a cell is the cell itself,
but for the tag that says whether bytes are text (`Element.field_of_gives`). So the texts are those of the row
(`Shard.formatRow_of_decode`), and listing agrees with reading (`Shard.formatted_rows`).
-/

namespace GraphDisk

/-! ## What is shown of a row -/

/-- **The field that holds a cell**, where text is tagged as such or is not. -/
def Cell.field (tagged : Bool) : Cell → Field
  | int64 n => .long n
  | double x => .double x
  | utf8 s => if tagged then .string s else .bytes s.toUTF8

/-- Whether the values of an element are tagged as text. -/
def Element.tagsText : Element → Bool
  | leaf _ _ _ tag => tag == .utf8 || tag == .json || tag == .enumeration
  | group .. => false

/-- Whether the column of a name is tagged as text. -/
def Element.textAt (elements : List Element) (name : String) : Bool :=
  elements.any fun e => e.name == name && e.tagsText

/-- **Texts show a row**: one for each column of the schema, in their order, and each is how the cell is written. -/
def Schema.Row.Shows (render : Field → Option String) (s : Schema) (elements : List Element) (row : s.Row)
    (texts : List String) : Prop :=
  List.Forall₂ (fun c text => render ((cell s row c.2).field (Element.textAt elements c.1.name)) = some text)
    s.columns.zipIdx texts

/-- **Texts show a record**: one for each column of a schema, in their order, and each is how the field with the name of
the column is written. There is only one such field. -/
def Record.Shows (render : Field → Option String) (s : Schema) (record : Record) (texts : List String) : Prop :=
  (record.map Prod.fst).Nodup ∧
    List.Forall₂ (fun column text => ∃ f, (column.name, f) ∈ record ∧ render f = some text) s.columns texts

/-- All fields of a record can be written. -/
def Record.Writable (render : Field → Option String) (record : Record) : Prop :=
  ∀ x ∈ record, ∃ text, render x.2 = some text

/-! ## Listing rows up to a limit -/

namespace Shard

variable {shard : Shard} {render : Field → Option String} {limit : Nat}

/-- A group adds as many rows as the limit leaves, and is the last one iff it has more. -/
theorem formatGroup_eq : ∀ (rows : List (List (Option StoredValue))) (shown : Array (List String)),
    shard.formatGroup render limit rows shown =
      ((rows.take (limit - shown.size)).mapM (shard.formatRow render)).map fun texts =>
        (decide (limit - shown.size < rows.length), shown ++ texts.toArray)
  | [], shown => by simp [formatGroup, Except.map, pure, Except.pure]
  | values :: rest, shown => by
    rw [formatGroup]
    by_cases hfull : limit ≤ shown.size
    · rw [if_pos hfull, Nat.sub_eq_zero_of_le hfull]
      simp [Except.map, pure, Except.pure]
    · rw [if_neg hfull]
      obtain ⟨left, hleft⟩ : ∃ left, limit - shown.size = left + 1 := ⟨limit - shown.size - 1, by omega⟩
      rw [hleft, List.take_succ_cons, List.mapM_cons]
      cases hrow : shard.formatRow render values with
      | error e => rfl
      | ok texts =>
        have hnext : limit - (shown.push texts).size = left := by
          rw [Array.size_push]
          omega
        have ih := formatGroup_eq rest (shown.push texts)
        rw [hnext] at ih
        simp only [bind, Except.bind, ih]
        cases (rest.take left).mapM (shard.formatRow render) with
        | error e => rfl
        | ok more => simp [Except.map, pure, Except.pure]

/-- The groups together add as many rows as the limit leaves, and no group is left out before that. -/
theorem formatGroups_eq : ∀ (groups : List RowGroup) (shown : Array (List String)),
    shard.formatGroups render limit groups shown =
      (((groups.flatMap RowGroup.rows).take (limit - shown.size)).mapM (shard.formatRow render)).map fun texts =>
        shown ++ texts.toArray
  | [], shown => by simp [formatGroups, Except.map, pure, Except.pure]
  | g :: rest, shown => by
    rw [formatGroups, formatGroup_eq, List.flatMap_cons, List.take_append, List.mapM_append]
    cases hgroup : (g.rows.take (limit - shown.size)).mapM (shard.formatRow render) with
    | error e => rfl
    | ok texts =>
      have hlength : texts.length = min (limit - shown.size) g.rows.length := by
        rw [← (mapM_eq_ok.mp hgroup).length_eq, List.length_take]
      simp only [Except.map, bind, Except.bind, decide_eq_true_eq]
      by_cases hmore : limit - shown.size < g.rows.length
      · -- the limit is reached within the group, so there is nothing to take from those behind it
        rw [if_pos hmore, Nat.sub_eq_zero_of_le (Nat.le_of_lt hmore)]
        simp [pure, Except.pure]
      · have hsize : (shown ++ texts.toArray).size = shown.size + texts.length := by simp
        have hnext : limit - (shown ++ texts.toArray).size = limit - shown.size - g.rows.length := by omega
        rw [if_neg hmore, formatGroups_eq rest, hnext]
        cases ((rest.flatMap RowGroup.rows).take (limit - shown.size - g.rows.length)).mapM
          (shard.formatRow render) with
        | error e => rfl
        | ok more => simp [Except.map, pure, Except.pure]

/-- **The rows that are listed are the first rows of the file**, across all groups. -/
theorem formatRows_eq (limit : Nat) :
    shard.formatRows limit render = (shard.table.rows.take limit).mapM (shard.formatRow render) := by
  unfold formatRows
  rw [formatGroups_eq, Array.size_empty, Nat.sub_zero]
  show _ = ((shard.table.groups.flatMap RowGroup.rows).take limit).mapM (shard.formatRow render)
  cases ((shard.table.groups.flatMap RowGroup.rows).take limit).mapM (shard.formatRow render) with
  | error e => rfl
  | ok texts => simp [Except.map, bind, Except.bind, pure, Except.pure]

/-! ## Writing a row -/

theorem written_eq_ok {f : Field} {text : String} : written render f = .ok text ↔ render f = some text := by
  unfold written
  cases render f <;> simp

/-- **A row is shown by the fields at the positions of the columns**, each as it is written. -/
theorem formatRow_eq_ok {values : List (Option StoredValue)} {texts : List String} :
    shard.formatRow render values = .ok texts ↔ ∃ record, shard.table.record values = .ok record ∧
      List.Forall₂ (fun i text => (record[i]?.bind fun x => render x.2) = some text) shard.positions texts := by
  have hat : ∀ {record : Record} {i : Nat} {text : String}, record.at i >>= written render = .ok text ↔
      (record[i]?.bind fun x => render x.2) = some text := by
    intro record i text
    unfold Record.at
    cases record[i]? with
    | none => simp [bind, Except.bind]
    | some x => exact written_eq_ok
  have hrow : shard.formatRow render values = .ok texts ↔ (shard.table.record values >>= fun record =>
      shard.positions.mapM fun i => record.at i >>= written render) = .ok texts := by
    unfold formatRow
    cases (shard.table.record values >>= fun record =>
      shard.positions.mapM fun i => record.at i >>= written render) <;> simp
  rw [hrow, bind_eq_ok]
  simp only [mapM_eq_ok, hat]

end Shard

/-! ## Fields of columns -/

variable {s : Schema} {elements : List Element} {positions : List Nat}
  {values : List (Option StoredValue)} {record : Record}

theorem Table.record_eq_ok {t : Table} :
    t.record values = .ok record ↔ ∃ rest, Element.fields t.elements values = .ok (record, rest) := by
  unfold Table.record Record.ofValues
  cases Element.fields t.elements values with
  | error fault => simp [Except.map]
  | ok x => simp [Except.map, Prod.ext_iff]

namespace Element

/-- A record has the names of the elements. -/
theorem names_of_fields : ∀ {elements : List Element} {values rest : List (Option StoredValue)} {record : Record},
    fields elements values = .ok (record, rest) → record.map Prod.fst = elements.map name
  | [], _, _, _, h => by
    rw [fields] at h
    cases h
    rfl
  | e :: es, values, _, _, h => by
    rw [fields] at h
    obtain ⟨⟨f, middle⟩, -, h⟩ := bind_eq_ok.mp h
    obtain ⟨⟨fs, rest⟩, hfs, h⟩ := bind_eq_ok.mp h
    cases h
    rw [List.map_cons, List.map_cons, names_of_fields hfs]

/-- **A field that is read off a leaf and gives a cell is the cell**, tagged as the leaf is. -/
theorem field_of_gives {e : Element} {v : Option StoredValue} {f : Field} {c : Cell}
    (hr : e.Reads v f) (hg : f.Gives c) :
    f = c.field e.tagsText := by
  cases hg with
  | long n => rfl
  | double x => rfl
  | string s =>
    cases hr with
    | @stored name r physical tag v f h =>
      -- only what is tagged as text becomes a string
      have htag : (leaf name r physical tag).tagsText = true := by
        cases physical <;> cases tag <;> cases v <;> first | rfl | cases h
      rw [htag]
      rfl
  | bytes s =>
    cases hr with
    | @stored name r physical tag v f h =>
      have hstring : ∀ data, Field.ofStored.asText data ≠ .ok (.bytes s.toUTF8) := fun data hdata => by
        unfold Field.ofStored.asText at hdata
        split at hdata <;> cases hdata
      have htag : (leaf name r physical tag).tagsText = false := by
        cases physical <;> cases tag <;> cases v <;> first | rfl | cases h | exact absurd h (hstring _)
      rw [htag]
      rfl

/-- Names that differ single out an element. -/
theorem textAt_of_nodup {i : Nat} {e : Element} (hn : (elements.map name).Nodup) (he : elements[i]? = some e) :
    textAt elements e.name = e.tagsText := by
  have hsame : ∀ e' ∈ elements, e'.name = e.name → e' = e := fun e' he' hname =>
    List.inj_on_of_nodup_map hn he' (List.mem_of_getElem? he) hname
  rw [Bool.eq_iff_iff, textAt, List.any_eq_true]
  constructor
  · rintro ⟨e', he', htext⟩
    rw [Bool.and_eq_true, beq_iff_eq] at htext
    rw [← hsame e' he' htext.1]
    exact htext.2
  · intro htext
    exact ⟨e, List.mem_of_getElem? he, by simp [htext]⟩

end Element

/-- **The field at the position of a column has its name**, and is read off an element of that name. -/
theorem Schema.field_of_positions (hflat : Element.Flat elements) (hp : s.positions elements = .ok positions)
    {rest : List (Option StoredValue)} (hr : Element.fields elements values = .ok (record, rest)) :
    List.Forall₂ (fun (column : Column) i => ∃ e f v, elements[i]? = some e ∧ e.name = column.name ∧
      record[i]? = some (column.name, f) ∧ e.Reads v f) s.columns positions := by
  refine (leaves_of_positions hp).imp fun column i hi => ?_
  obtain ⟨e, he, -, hname⟩ := Leaf.getElem?_of_flat hflat hi
  obtain ⟨f, before, behind, hf, hfield⟩ := Element.getElem?_fields hr he
  obtain ⟨v, -, hreads⟩ := Element.reads_of_field (hflat e (List.mem_of_getElem? he)) hfield
  have hname : e.name = column.name := hname
  exact ⟨e, f, v, he, hname, by rw [hf, hname], hreads⟩

/-- The elements of a file in which the columns of a schema are found have different names. -/
theorem Schema.nodup_names (hflat : Element.Flat elements) (hp : s.positions elements = .ok positions) :
    (elements.map Element.name).Nodup := by
  have hcolumns : (s.columns.map Column.name).Nodup := by cases s <;> decide
  exact (names_of_positions hflat hp).nodup_iff.mpr hcolumns

namespace Shard

variable {shard : Shard} {render : Field → Option String} {texts : List String} {e : Error}

/-- **A record is shown** by one text for each column. -/
theorem shows_of_formatRow (hflat : Element.Flat shard.table.elements)
    (hp : shard.schema.positions shard.table.elements = .ok shard.positions)
    (h : shard.formatRow render values = .ok texts) :
    ∃ record, shard.table.record values = .ok record ∧ record.Shows render shard.schema texts := by
  obtain ⟨record, hr, htexts⟩ := formatRow_eq_ok.mp h
  obtain ⟨rest, hfields⟩ := Table.record_eq_ok.mp hr
  refine ⟨record, hr, ?_, ?_⟩
  · rw [Element.names_of_fields hfields]
    exact Schema.nodup_names hflat hp
  · have hplaces := Schema.field_of_positions hflat hp hfields
    rw [List.forall₂_iff_get] at htexts hplaces ⊢
    refine ⟨hplaces.1.trans htexts.1, fun k hk hk' => ?_⟩
    have hposition : k < shard.positions.length := htexts.1 ▸ hk'
    obtain ⟨e, f, v, -, -, hf, -⟩ := hplaces.2 k hk hposition
    have htext := htexts.2 k hposition hk'
    rw [hf] at htext
    exact ⟨f, List.mem_of_getElem? hf, htext⟩

/-- **The program ends only on a field that cannot be written.** -/
theorem formatRow_fails (hflat : Element.Flat shard.table.elements)
    (hp : shard.schema.positions shard.table.elements = .ok shard.positions)
    (hr : shard.table.record values = .ok record) (h : shard.formatRow render values = .error e) :
    e = .table .halt ∧ ¬ record.Writable render := by
  obtain ⟨rest, hfields⟩ := Table.record_eq_ok.mp hr
  have hplaces := Schema.field_of_positions hflat hp hfields
  unfold formatRow at h
  split at h
  · cases h
  rename_i fault hfault
  cases h
  rcases bind_eq_error.mp hfault with hfault | ⟨record', hr', hfault⟩
  · rw [hr] at hfault
    cases hfault
  rw [hr] at hr'
  cases hr'
  obtain ⟨before, i, behind, hi, -, hfail⟩ := mapM_eq_error.mp hfault
  obtain ⟨k, hk⟩ := List.mem_iff_getElem?.mp (show i ∈ shard.positions by simp [hi])
  obtain ⟨column, -, e, f, v, -, -, hf, -⟩ := getElem?_of_forall₂ hplaces.flip hk
  have hat : record.at i = .ok f := by rw [Record.at, hf]
  rw [hat] at hfail
  have hfail : written render f = .error fault := hfail
  unfold written at hfail
  split at hfail
  · cases hfail
  · rename_i hnone
    cases hfail
    refine ⟨rfl, fun hw => ?_⟩
    obtain ⟨text, htext⟩ := hw _ (List.mem_of_getElem? hf)
    rw [hnone] at htext
    cases htext

/-- A record whose fields can be written is shown. -/
theorem formatRow_of_writable (hflat : Element.Flat shard.table.elements)
    (hp : shard.schema.positions shard.table.elements = .ok shard.positions)
    (hr : shard.table.record values = .ok record) (hw : record.Writable render) :
    ∃ texts, shard.formatRow render values = .ok texts := by
  rcases ok_or_error (shard.formatRow render values) with hok | ⟨e, he⟩
  · exact hok
  · exact absurd hw (formatRow_fails hflat hp hr he).2

/-- **A row that is read is shown by its cells.** -/
theorem formatRow_of_decode {row : shard.schema.Row} (hflat : Element.Flat shard.table.elements)
    (hp : shard.schema.positions shard.table.elements = .ok shard.positions)
    (hrow : shard.decode shard.schema values = .ok row) :
    shard.formatRow render values = .ok texts ↔ row.Shows render shard.schema shard.table.elements texts := by
  obtain ⟨record, rest, hfields, hread⟩ := decode_eq_ok.mp hrow
  have hplaces := Schema.field_of_positions hflat hp hfields
  have hlength := hplaces.length_eq
  have hcells : shard.positions.map (fun i => record[i]?.bind fun x => render x.2) =
      shard.schema.columns.zipIdx.map fun c =>
        render ((Schema.Row.cell shard.schema row c.2).field (Element.textAt shard.table.elements c.1.name)) := by
    apply List.ext_getElem
    · simp [hlength]
    · intro k hk hk'
      rw [List.getElem_map, List.getElem_map, List.getElem_zipIdx, Nat.zero_add]
      rw [List.length_map] at hk
      rw [List.length_map, List.length_zipIdx] at hk'
      -- the field at the position of the column is the one that the cell was taken from
      obtain ⟨i, hi, e, f, v, he, hname, hf, hreads⟩ := getElem?_of_forall₂ hplaces (List.getElem?_eq_getElem hk')
      obtain ⟨f', hf', hgives⟩ := Schema.Row.gives_of_ofRecord hread (shard.schema.columns[k], k)
        (List.mem_zipIdx_iff_getElem?.mpr (List.getElem?_eq_getElem hk'))
      have hat : Record.at record i = .ok f := by rw [Record.at, hf]
      obtain rfl : f = f' := by
        simp only [Schema.Row.fieldAt, hi, hat] at hf'
        cases hf'
        rfl
      obtain rfl : i = shard.positions[k] := (List.getElem?_eq_some_iff.mp hi).2.symm
      rw [hf, ← hname, Element.textAt_of_nodup (Schema.nodup_names hflat hp) he, ← Element.field_of_gives hreads hgives]
      rfl
  have hrecord : ∀ record', shard.table.record values = .ok record' ↔ record = record' := fun record' => by
    rw [Table.record_eq_ok.mpr ⟨rest, hfields⟩]
    simp
  rw [formatRow_eq_ok]
  simp only [hrecord, exists_eq_left']
  rw [Schema.Row.Shows, ← List.forall₂_map_left_iff (R := (· = some ·)), hcells, List.forall₂_map_left_iff]

/-- **A listing agrees with what is read.** Let every record be taken from the file. A listing with a limit whose fields
can be written shows the first rows of the file, as many as the limit or all there are, across all row groups, and each
by the texts of its columns in the order of the schema. Otherwise the program ends, on a field that cannot be written
and for no other reason. A listing with a smaller limit is the beginning of one with a greater limit. If the rows can be
read as rows of the schema, by any number of threads, there are as many of them, and what a listing shows is how their
cells are written; if all cells can be written, so can every listing. -/
theorem formatted_rows {fs : FileSystem} {p : Path} (render : Field → Option String)
    (hopen : fs.openShard p = .ok shard)
    (hflat : Element.Flat shard.table.elements)
    (hrecords : ∀ values ∈ shard.table.rows, ∃ record, shard.table.record values = .ok record) :
    (∀ limit, (∀ values ∈ shard.table.rows.take limit, ∀ record, shard.table.record values = .ok record →
        record.Writable render) →
      ∃ texts, shard.formatRows limit render = .ok texts ∧ texts.length = min limit shard.table.rows.length ∧
        List.Forall₂ (fun values row => ∃ record, shard.table.record values = .ok record ∧
          record.Shows render shard.schema row) (shard.table.rows.take limit) texts) ∧
    (∀ limit e, shard.formatRows limit render = .error e → e = .table .halt ∧
      ∃ values ∈ shard.table.rows.take limit, ∃ record, shard.table.record values = .ok record ∧
        ¬ record.Writable render) ∧
    (∀ less more all, less ≤ more → shard.formatRows more render = .ok all →
      ∃ first, shard.formatRows less render = .ok first ∧ first <+: all) ∧
    ∀ (codec : CodecConfig) (order : Schedule) (noThreads : Option IoFault) (room : Nat), order.Fair →
      ∀ rows, shard.readRowsBy codec order shard.schema noThreads room = .ok rows →
        rows.length = shard.table.rows.length ∧
        (∀ limit texts, shard.formatRows limit render = .ok texts ↔
          List.Forall₂ (fun row shown => row.Shows render shard.schema shard.table.elements shown)
            (rows.take limit) texts) ∧
        ((∀ tagged (c : Cell), ∃ text, render (c.field tagged) = some text) →
          ∀ limit, ∃ texts, shard.formatRows limit render = .ok texts) := by
  obtain ⟨t, -, ht⟩ := FileSystem.openShard_eq_ok.mp hopen
  obtain ⟨rfl, -, hp⟩ := ofTable_eq_ok.mp ht
  have hmem : ∀ {limit values}, values ∈ shard.table.rows.take limit → values ∈ shard.table.rows :=
    fun hv => List.mem_of_mem_take hv
  refine ⟨fun limit hw => ?_, fun limit e he => ?_, fun less more all hle hall => ?_,
    fun codec order noThreads room hf rows hrows => ?_⟩
  · obtain ⟨texts, htexts⟩ := exists_mapM_ok (f := shard.formatRow render) fun values hv => by
      obtain ⟨record, hr⟩ := hrecords values (hmem hv)
      exact formatRow_of_writable hflat hp hr (hw values hv record hr)
    have hshown := mapM_eq_ok.mp htexts
    refine ⟨texts, (formatRows_eq limit).trans htexts, ?_, hshown.imp fun values row => shows_of_formatRow hflat hp⟩
    rw [← hshown.length_eq, List.length_take]
  · rw [formatRows_eq] at he
    obtain ⟨before, values, behind, hin, -, hv⟩ := mapM_eq_error.mp he
    have hv' : values ∈ shard.table.rows.take limit := by simp [hin]
    obtain ⟨record, hr⟩ := hrecords values (hmem hv')
    obtain ⟨rfl, hno⟩ := formatRow_fails hflat hp hr hv
    exact ⟨rfl, values, hv', record, hr, hno⟩
  · rw [formatRows_eq, mapM_eq_ok] at hall
    refine ⟨all.take less, ?_, List.take_prefix less all⟩
    have htake := List.forall₂_take less hall
    rw [List.take_take, Nat.min_eq_left hle] at htake
    rw [formatRows_eq, mapM_eq_ok]
    exact htake
  · have hdecoded := decoded_of_readRows ((readRowsBy_eq_ok hf rfl).mp hrows).2
    refine ⟨hdecoded.length_eq.symm, fun limit texts => ?_, fun hcells limit => ?_⟩
    · rw [formatRows_eq]
      refine mapM_eq_ok_of_forall₂ ((List.forall₂_take limit hdecoded).imp fun values row hrow texts => ?_)
      exact formatRow_of_decode hflat hp hrow
    · choose text htext using hcells
      obtain ⟨texts, htexts⟩ := exists_mapM_ok (f := shard.formatRow render) fun values hv => by
        obtain ⟨row, -, hrow⟩ := mapM_ok_of_mem (mapM_eq_ok.mpr hdecoded) (hmem hv)
        refine ⟨shard.schema.columns.zipIdx.map fun c =>
          text (Element.textAt shard.table.elements c.1.name) (Schema.Row.cell shard.schema row c.2), ?_⟩
        rw [formatRow_of_decode hflat hp hrow, Schema.Row.Shows, List.forall₂_map_right_iff, List.forall₂_same]
        exact fun c _ => htext _ _
      exact ⟨texts, (formatRows_eq limit).trans htexts⟩

/-- A listing of two rows ends before the last group, and shows what three threads read. Fields are written the usual
way. -/
theorem formatted_rows_of_texts : ∃ (rows : List Schema.stringAttribute.Row) (texts : List (List String)),
    readRowsBy ⟨3, 1⟩ (fun n => (List.range n).reverse) ⟨foreignTexts, .stringAttribute, [1, 0]⟩ .stringAttribute =
      .ok rows ∧
    formatRows ⟨foreignTexts, .stringAttribute, [1, 0]⟩ 2 = .ok texts ∧ texts.length = 2 ∧
    List.Forall₂ (fun row shown => row.Shows Field.text .stringAttribute foreignTexts.elements shown)
      (rows.take 2) texts := by
  have hfile : FileSystem.find ⟨[("f", .file (.table foreignTexts))], []⟩ ⟨"f"⟩ =
      .ok (.file (.table foreignTexts)) := rfl
  have hopen : FileSystem.openShard ⟨[("f", .file (.table foreignTexts))], []⟩ ⟨"f"⟩ =
      .ok ⟨foreignTexts, .stringAttribute, [1, 0]⟩ := FileSystem.openShard_eq_ok.mpr ⟨_, hfile, rfl⟩
  have hflat : Element.Flat foreignTexts.elements := by
    simp [Element.Flat, foreignTexts, Element.isGroup]
  have hvalues : foreignTexts.rows = [[some (.bytes "c".toUTF8), some (.integer 30)],
      [some (.bytes "a".toUTF8), some (.integer 10)], [some (.bytes "b".toUTF8), some (.integer 20)]] := rfl
  have hrecords : ∀ values ∈ foreignTexts.rows, ∃ record, foreignTexts.record values = .ok record := by
    rw [hvalues]
    simp only [List.forall_mem_cons, List.not_mem_nil, false_implies, implies_true, and_true]
    exact ⟨⟨_, rfl⟩, ⟨_, rfl⟩, ⟨_, rfl⟩⟩
  have hwritten : ∀ tagged (c : Cell), ∃ text, (c.field tagged).text = some text := by
    rintro tagged (n | x | s)
    · exact ⟨_, rfl⟩
    · exact ⟨_, rfl⟩
    · cases tagged <;> exact ⟨_, rfl⟩
  have hrows : readRowsBy ⟨3, 1⟩ (fun n => (List.range n).reverse) ⟨foreignTexts, .stringAttribute, [1, 0]⟩
      .stringAttribute = .ok [⟨30, "c"⟩, ⟨10, "a"⟩, ⟨20, "b"⟩] := eq_ok_of_toOption (by decide +kernel)
  obtain ⟨-, -, -, hread⟩ := formatted_rows Field.text hopen hflat hrecords
  obtain ⟨-, hshown, hall⟩ := hread _ _ _ _ (fun n => List.reverse_perm _) _ hrows
  obtain ⟨texts, htexts⟩ := hall hwritten 2
  have hshows := (hshown 2 texts).mp htexts
  exact ⟨_, texts, hrows, htexts, hshows.length_eq.symm, hshows⟩

/-- Text that is not tagged as such is shown as bytes. -/
example : formatRows ⟨foreignTexts, .stringAttribute, [1, 0]⟩ 2 = .ok [["30", "[99]"], ["10", "[97]"]] := by cbv

end Shard

end GraphDisk
