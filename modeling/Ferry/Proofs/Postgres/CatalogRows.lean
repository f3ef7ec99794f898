import Ferry.Postgres.CatalogRows
import Ferry.Proofs.Outcome
import Ferry.Proofs.Pairing
import Ferry.Proofs.Schema.Catalog

set_option autoImplicit false

/-! # Catalogs from rows

What a catalog read from a server says of the rows that were sent. A row is read as it was sent or
not at all (`ColumnRow.read_eq_ok_iff`). The rows of columns are looked at one after the other, with
the table of the last one in front: `Grouped` is what the tables so far say of the rows so far, as
long as the rows of each table follow each other. -/

namespace Ferry.Postgres

/-! ## Values -/

theorem required_eq_ok_iff {α : Type} {d : Decoder} {pick : Value → Option α} {row : List Wire}
    {place : Nat} {a : α} :
    required d pick row place = .ok a
      ↔ ∃ w v, row[place]? = some w ∧ d.decode w = some v ∧ pick v = some a := by
  unfold required
  split
  · next b hb =>
      simp only [Option.bind_eq_some_iff] at hb
      obtain ⟨v, ⟨w, hw, hv⟩, hpick⟩ := hb
      constructor
      · rintro ⟨⟩
        exact ⟨w, v, hw, hv, hpick⟩
      · rintro ⟨w', v', hw', hv', hpick'⟩
        cases hw.symm.trans hw'
        cases hv.symm.trans hv'
        exact congrArg _ (Option.some.inj (hpick.symm.trans hpick'))
  · next hnone =>
      simp only [reduceCtorEq, false_iff, not_exists, not_and]
      intro w v hw hv hpick
      simp [hw, hv, hpick] at hnone

theorem Decoder.decode_eq_some_iff {d : Decoder} {w : Wire} {v : Value} :
    d.decode w = some v ↔ w.type = d.wireType ∧
      ((w.content = none ∧ v = .null) ∨ ∃ s, w.content = some s ∧ d.read s = some v) := by
  unfold decode
  by_cases htype : w.type = d.wireType
  · cases hcontent : w.content with
    | none => simp [htype, eq_comm]
    | some s => simp [htype]
  · simp [htype]

section
variable {row : List Wire} {place : Nat}

theorem required_text_iff {s : String} :
    required .text textOf? row place = .ok s ↔ row[place]? = some ⟨.text, some s⟩ := by
  rw [required_eq_ok_iff]
  constructor
  · rintro ⟨⟨type, content⟩, v, hw, hv, hpick⟩
    obtain ⟨rfl, ⟨rfl, rfl⟩ | ⟨text, rfl, hread⟩⟩ := Decoder.decode_eq_some_iff.1 hv
    · cases hpick
    · cases hread
      cases hpick
      exact hw
  · intro hw
    exact ⟨_, .text s, hw, rfl, rfl⟩

theorem required_optionalText_iff {o : Option String} :
    required .text optionalText? row place = .ok o ↔ row[place]? = some ⟨.text, o⟩ := by
  rw [required_eq_ok_iff]
  constructor
  · rintro ⟨⟨type, content⟩, v, hw, hv, hpick⟩
    obtain ⟨rfl, ⟨rfl, rfl⟩ | ⟨text, rfl, hread⟩⟩ := Decoder.decode_eq_some_iff.1 hv
    · cases hpick
      exact hw
    · cases hread
      cases hpick
      exact hw
  · intro hw
    cases o with
    | none => exact ⟨_, .null, hw, rfl, rfl⟩
    | some s => exact ⟨_, .text s, hw, rfl, rfl⟩

theorem required_bool_iff {flag : Bool} :
    required .bool boolOf? row place = .ok flag
      ↔ ∃ s, row[place]? = some ⟨.bool, some s⟩ ∧ flag = (s == "t") := by
  rw [required_eq_ok_iff]
  constructor
  · rintro ⟨⟨type, content⟩, v, hw, hv, hpick⟩
    obtain ⟨rfl, ⟨rfl, rfl⟩ | ⟨text, rfl, hread⟩⟩ := Decoder.decode_eq_some_iff.1 hv
    · cases hpick
    · cases hread
      cases hpick
      exact ⟨text, hw, rfl⟩
  · rintro ⟨s, hw, rfl⟩
    exact ⟨_, .bool (s == "t"), hw, rfl, rfl⟩

theorem required_int4_iff {n : Int} :
    required .int4 intOf? row place = .ok n
      ↔ ∃ s, row[place]? = some ⟨.int4, some s⟩ ∧ Text.integer? s.toList = some n := by
  rw [required_eq_ok_iff]
  constructor
  · rintro ⟨⟨type, content⟩, v, hw, hv, hpick⟩
    obtain ⟨rfl, ⟨rfl, rfl⟩ | ⟨text, rfl, hread⟩⟩ := Decoder.decode_eq_some_iff.1 hv
    · cases hpick
    · obtain ⟨m, hm, rfl⟩ := Option.map_eq_some_iff.1 hread
      cases hpick
      exact ⟨text, hw, hm⟩
  · rintro ⟨s, hw, hn⟩
    exact ⟨_, .int n, hw, by simp [Decoder.decode, Decoder.wireType, Decoder.read, hn], rfl⟩

end

/-! ## Rows -/

/-- A row as it was sent for a column: six values of the right types, of which only the default may
    be null. -/
structure ColumnRow.SentAs (r : ColumnRow) (row : List Wire) : Prop where
  table : row[0]? = some ⟨.text, some r.table⟩
  name : row[1]? = some ⟨.text, some r.column.name⟩
  dataType : row[2]? = some ⟨.text, some r.column.dataType⟩
  isNullable : ∃ s, row[3]? = some ⟨.bool, some s⟩ ∧ r.column.isNullable = (s == "t")
  default : row[4]? = some ⟨.text, r.column.default⟩
  position : ∃ s, row[5]? = some ⟨.int4, some s⟩ ∧ Text.integer? s.toList = some r.column.position

/-- A row as it was sent for a column of a primary key. -/
structure KeyRow.SentAs (r : KeyRow) (row : List Wire) : Prop where
  table : row[0]? = some ⟨.text, some r.table⟩
  column : row[1]? = some ⟨.text, some r.column⟩

theorem ColumnRow.read_eq_ok_iff {row : List Wire} {r : ColumnRow} :
    ColumnRow.read row = .ok r ↔ r.SentAs row := by
  simp only [read, bind_eq_ok_iff, pure_eq_ok_iff, required_text_iff, required_optionalText_iff,
    required_bool_iff, required_int4_iff]
  constructor
  · rintro ⟨table, htable, name, hname, dataType, htype, flag, hflag, default, hdefault, position,
      hposition, rfl⟩
    exact ⟨htable, hname, htype, hflag, hdefault, hposition⟩
  · intro h
    exact ⟨_, h.table, _, h.name, _, h.dataType, _, h.isNullable, _, h.default, _, h.position, rfl⟩

theorem KeyRow.read_eq_ok_iff {row : List Wire} {r : KeyRow} :
    KeyRow.read row = .ok r ↔ r.SentAs row := by
  simp only [read, bind_eq_ok_iff, pure_eq_ok_iff, required_text_iff]
  constructor
  · rintro ⟨table, htable, column, hcolumn, rfl⟩
    exact ⟨htable, hcolumn⟩
  · intro h
    exact ⟨_, h.table, _, h.column, rfl⟩

theorem readAll_eq_ok_iff {α : Type} {read : List Wire → Except Nat α} {rows : List (List Wire)}
    {out : List α} :
    readAll read rows = .ok out ↔ List.Forall₂ (fun row a => read row = .ok a) rows out := by
  induction rows generalizing out with
  | nil => simp [readAll, eq_comm]
  | cons row rest ih =>
      simp only [readAll, bind_eq_ok_iff, pure_eq_ok_iff, ih, List.forall₂_cons_left_iff]
      constructor
      · rintro ⟨a, ha, as, has, rfl⟩
        exact ⟨a, as, ha, has, rfl⟩
      · rintro ⟨a, as, ha, has, rfl⟩
        exact ⟨a, ha, as, has, rfl⟩

/-! ## Answers -/

/-- What the rows of an answer say. -/
def Says {α : Type} (SentAs : α → List Wire → Prop) (answer : Except DriverError Reply)
    (rows : List α) : Prop :=
  ∃ reply, answer = .ok reply ∧ List.Forall₂ SentAs rows reply.rowList

/-- An answer that is an error, or that has a row which says nothing. -/
def Unreadable {α : Type} (SentAs : α → List Wire → Prop) (answer : Except DriverError Reply) :
    Prop :=
  (∃ e, answer = .error e) ∨
    ∃ reply, answer = .ok reply ∧ ∃ row ∈ reply.rowList, ∀ a, ¬ SentAs a row

section
variable {α : Type} {SentAs : α → List Wire → Prop} {read : List Wire → Except Nat α}
  {reply : Reply} {rows : List α}

theorem says_iff (hread : ∀ row a, read row = .ok a ↔ SentAs a row) :
    Says SentAs (.ok reply) rows ↔ readAll read reply.rowList = .ok rows := by
  simp only [Says, Except.ok.injEq, exists_eq_left', readAll_eq_ok_iff, hread]
  exact ⟨List.Forall₂.flip, List.Forall₂.flip⟩

theorem readAll_of_unreadable (hread : ∀ row a, read row = .ok a ↔ SentAs a row)
    (h : Unreadable SentAs (.ok reply)) : ∃ place, readAll read reply.rowList = .error place := by
  obtain ⟨e, ⟨⟩⟩ | ⟨_, ⟨⟩, row, hrow, hsilent⟩ := h
  cases hall : readAll read reply.rowList with
  | error place => exact ⟨place, rfl⟩
  | ok out =>
      obtain ⟨i, hi⟩ := List.getElem?_of_mem hrow
      obtain ⟨a, -, ha⟩ := getElem?_of_forall₂ (readAll_eq_ok_iff.1 hall) hi
      exact absurd ((hread row a).1 ha) (hsilent a)

end

/-! ## Grouping rows by their tables -/

/-- The rows of each table follow each other: between two of them is none of another table. -/
def Contiguous (rows : List ColumnRow) : Prop :=
  ∀ a ∈ rows, ∀ b ∈ rows,
    [a.table, b.table, a.table].Sublist (rows.map ColumnRow.table) → b.table = a.table

instance (rows : List ColumnRow) : Decidable (Contiguous rows) :=
  inferInstanceAs (Decidable (∀ a ∈ rows, ∀ b ∈ rows, _ → _))

/-- The table of a name that rows describe. -/
def tableOf (schema : String) (columns : List ColumnRow) (keys : List KeyRow) (name : String) :
    Table where
  schema := schema
  name := name
  columns := (columns.filter (fun r => r.table == name)).map ColumnRow.column
  primaryKey := keyOf keys name

section
variable {schema : String} {rows : List ColumnRow} {keys : List KeyRow} {row : ColumnRow}
  {tables : List Table}

theorem Contiguous.of_concat (h : Contiguous (rows ++ [row])) : Contiguous rows := by
  intro a ha b hb hbetween
  refine h a (List.mem_append_left _ ha) b (List.mem_append_left _ hb) (hbetween.trans ?_)
  rw [List.map_append]
  exact List.sublist_append_left _ _

/-- Behind a row of another table none is of a table that was there before. -/
theorem Contiguous.fresh (h : Contiguous (rows ++ [row])) {last : ColumnRow}
    (hlast : rows.getLast? = some last) (hother : last.table ≠ row.table) :
    row.table ∉ rows.map ColumnRow.table := by
  obtain ⟨before, rfl⟩ := List.getLast?_eq_some_iff.1 hlast
  intro hmem
  rw [List.map_append, List.mem_append, List.map_singleton, List.mem_singleton] at hmem
  refine hother (h row (by simp) last (by simp) ?_)
  rw [List.map_append, List.map_append, List.append_assoc]
  exact (List.singleton_sublist.2 (hmem.resolve_right (Ne.symm hother))).append (.refl _)

theorem tableOf_concat_of_ne {name : String} (h : row.table ≠ name) :
    tableOf schema (rows ++ [row]) keys name = tableOf schema rows keys name := by
  simp [tableOf, h]

theorem tableOf_concat :
    tableOf schema (rows ++ [row]) keys row.table
      = { tableOf schema rows keys row.table with
          columns := (tableOf schema rows keys row.table).columns ++ [row.column] } := by
  simp [tableOf]

/-- What the tables so far, the last one in front, say of the rows so far. -/
structure Grouped (schema : String) (keys : List KeyRow) (rows : List ColumnRow)
    (tables : List Table) : Prop where
  once : (tables.map Table.name).Nodup
  named : ∀ name, name ∈ tables.map Table.name ↔ name ∈ rows.map ColumnRow.table
  described : ∀ t ∈ tables, t = tableOf schema rows keys t.name
  last : tables.head?.map Table.name = rows.getLast?.map ColumnRow.table

/-- A row of the table in front adds to it. -/
theorem Grouped.extend {current : Table} {rest : List Table}
    (h : Grouped schema keys rows (current :: rest)) (hname : current.name = row.table) :
    Grouped schema keys (rows ++ [row])
      ({ current with columns := current.columns ++ [row.column] } :: rest) := by
  have hmem : row.table ∈ rows.map ColumnRow.table := (h.named _).1 (by simp [hname])
  refine ⟨h.once, fun name => ?_, fun t ht => ?_, by simp [hname]⟩
  · refine (h.named name).trans ?_
    rw [List.map_append, List.mem_append, List.map_singleton, List.mem_singleton]
    exact ⟨.inl, fun hor => hor.elim id (fun heq => heq ▸ hmem)⟩
  · rcases List.mem_cons.1 ht with rfl | ht
    · have hcurrent := h.described current List.mem_cons_self
      rw [hname] at hcurrent
      refine Eq.trans ?_ (congrArg (tableOf schema (rows ++ [row]) keys) hname.symm)
      rw [tableOf_concat, ← hcurrent]
    · -- The other tables have other names.
      have hother : row.table ≠ t.name := by
        rintro heq
        exact (List.nodup_cons.1 h.once).1 ((hname.trans heq) ▸ List.mem_map_of_mem ht)
      rw [tableOf_concat_of_ne hother]
      exact h.described t (List.mem_cons_of_mem _ ht)

/-- A row of a table that was not there before begins it, with its whole key. -/
theorem Grouped.begins (h : Grouped schema keys rows tables)
    (hfresh : row.table ∉ rows.map ColumnRow.table) :
    Grouped schema keys (rows ++ [row])
      (⟨schema, row.table, [row.column],
        if tables.any (fun t => t.name == row.table) then [] else keyOf keys row.table⟩
        :: tables) := by
  have hnone : row.table ∉ tables.map Table.name := fun hmem => hfresh ((h.named _).1 hmem)
  have hany : tables.any (fun t => t.name == row.table) = false := by simpa using hnone
  have hrows : rows.filter (fun r => r.table == row.table) = [] := by simpa using hfresh
  refine ⟨List.nodup_cons.2 ⟨hnone, h.once⟩, fun name => ?_, fun t ht => ?_, by simp⟩
  · rw [List.map_cons, List.mem_cons, h.named, List.map_append, List.mem_append,
      List.map_singleton, List.mem_singleton, or_comm]
  · rcases List.mem_cons.1 ht with rfl | ht
    · simp [tableOf, hany, hrows]
    · have hother : row.table ≠ t.name := fun heq => hnone (heq ▸ List.mem_map_of_mem ht)
      rw [tableOf_concat_of_ne hother]
      exact h.described t ht

theorem Grouped.addColumn (h : Grouped schema keys rows tables)
    (hrows : Contiguous (rows ++ [row])) :
    Grouped schema keys (rows ++ [row]) (addColumn schema keys tables row) := by
  cases tables with
  | nil =>
      refine h.begins (fun hmem => ?_)
      cases (h.named _).2 hmem
  | cons current rest =>
      by_cases hname : current.name = row.table
      · simp only [Postgres.addColumn, if_pos hname]
        exact h.extend hname
      · simp only [Postgres.addColumn, if_neg hname]
        obtain ⟨last, hlast, htable⟩ := Option.map_eq_some_iff.1 h.last.symm
        refine h.begins (hrows.fresh hlast (fun heq => hname ?_))
        exact htable.symm.trans heq

theorem grouped (hrows : Contiguous rows) :
    Grouped schema keys rows (rows.foldl (addColumn schema keys) []) := by
  induction rows using List.reverseRecOn with
  | nil => exact ⟨.nil, fun name => .rfl, fun t ht => (by cases ht), rfl⟩
  | append_singleton before row ih =>
      rw [List.foldl_concat]
      exact (ih hrows.of_concat).addColumn hrows

end

/-! ## The catalog -/

/-- A catalog that has exactly what the rows of both answers say: one table for each name in a row
    of a column, with the columns of that name in the order of their rows, and with the key columns
    of that name in the order of theirs. -/
structure Assembled (schema : String) (columns : List ColumnRow) (keys : List KeyRow)
    (c : Catalog) : Prop where
  schema_eq : c.schema = schema
  once : c.names.Nodup
  named : ∀ name, name ∈ c.names ↔ name ∈ columns.map ColumnRow.table
  table_schema : ∀ t ∈ c.tables, t.schema = schema
  table_columns : ∀ t ∈ c.tables,
    t.columns = (columns.filter (fun r => r.table == t.name)).map ColumnRow.column
  table_primaryKey : ∀ t ∈ c.tables,
    t.primaryKey = (keys.filter (fun r => r.table == t.name)).map KeyRow.column
  /-- A key of a table without columns is dropped. -/
  dropped : ∀ key ∈ keys, key.table ∉ columns.map ColumnRow.table → c.get? key.table = none

theorem assembled {columns : List ColumnRow} (hcolumns : Contiguous columns) (schema : String)
    (keys : List KeyRow) : Assembled schema columns keys (assemble schema columns keys) := by
  have hgrouped : Grouped schema keys columns _ := grouped hcolumns
  have hassemble : assemble schema columns keys
      = Catalog.ofInserts schema (columns.foldl (addColumn schema keys) []).reverse := rfl
  generalize columns.foldl (addColumn schema keys) [] = tables at hgrouped hassemble
  have hnamed (name : String) : name ∈ (Catalog.ofInserts schema tables.reverse).names
      ↔ name ∈ columns.map ColumnRow.table := by
    rw [Catalog.mem_names_iff, Catalog.get?_ofInserts, Catalog.latest?_ne_none_iff,
      List.map_reverse, List.mem_reverse, hgrouped.named]
  have htables : ∀ t ∈ (Catalog.ofInserts schema tables.reverse).tables,
      t = tableOf schema columns keys t.name := by
    intro t ht
    have hfound := Catalog.get?_eq_some_iff.2 ⟨ht, rfl⟩
    rw [Catalog.get?_ofInserts] at hfound
    exact hgrouped.described t (by simpa using List.mem_of_find?_eq_some hfound)
  rw [hassemble]
  constructor
  case schema_eq => exact Catalog.schema_ofInserts
  case once => exact Catalog.names_nodup _
  case named => exact hnamed
  case table_schema => exact fun t ht => by rw [htables t ht]; rfl
  case table_columns => exact fun t ht => congrArg Table.columns (htables t ht)
  case table_primaryKey => exact fun t ht => congrArg Table.primaryKey (htables t ht)
  case dropped =>
    intro key _ habsent
    by_contra hfound
    exact habsent ((hnamed _).1 (Catalog.mem_names_iff.2 hfound))

theorem catalogOf_eq_ok_iff {schema : String} {columns keys : List (List Wire)} {c : Catalog} :
    catalogOf schema columns keys = .ok c ↔ ∃ keyRows, readAll KeyRow.read keys = .ok keyRows ∧
      ∃ columnRows, readAll ColumnRow.read columns = .ok columnRows ∧
        assemble schema columnRows keyRows = c := by
  simp only [catalogOf, bind_eq_ok_iff, pure_eq_ok_iff]

section
variable {k k₁ k₂ k₃ : Client} {c c₁ c₂ : Connection} {schema : String}

/-- What comes of two answers. -/
theorem readCatalog_of_replies {columns keys : Reply} (hlease : k.lease = (.ok c, k₁))
    (hcolumns : k₁.query c (.columns schema) = (.ok columns, c₁, k₂))
    (hkeys : k₂.query c₁ (.primaryKeys schema) = (.ok keys, c₂, k₃)) :
    k.readCatalog schema
      = ((catalogOf schema columns.rowList keys.rowList).mapError
          (fun place => .catalogRead schema (unreadable place)), k₃.giveBack c₂) := by
  simp only [Client.readCatalog, hlease, hcolumns, hkeys]
  cases catalogOf schema columns.rowList keys.rowList <;> rfl

/-- A catalog that is read from a server says what the answers to both queries say, if the rows of
    each table follow each other. If a query fails or a row cannot be read there is an error about
    the schema, and no catalog. -/
theorem readCatalog_assembles {columns keys : Except DriverError Reply}
    (hlease : k.lease = (.ok c, k₁))
    (hcolumns : k₁.query c (.columns schema) = (columns, c₁, k₂))
    (hkeys : k₂.query c₁ (.primaryKeys schema) = (keys, c₂, k₃)) :
    (∀ columnRows keyRows, Says ColumnRow.SentAs columns columnRows →
        Says KeyRow.SentAs keys keyRows → Contiguous columnRows →
        ∃ catalog k', k.readCatalog schema = (.ok catalog, k') ∧
          Assembled schema columnRows keyRows catalog) ∧
      (Unreadable ColumnRow.SentAs columns ∨ Unreadable KeyRow.SentAs keys →
        ∃ message k', k.readCatalog schema = (.error (.catalogRead schema message), k')) := by
  rcases columns with e | columnReply
  · refine ⟨fun columnRows keyRows hsays => ?_, fun _ => ⟨e.message, k₂.giveBack c₁, ?_⟩⟩
    · obtain ⟨_, ⟨⟩, -⟩ := hsays
    · simp only [Client.readCatalog, hlease, hcolumns]
  rcases keys with e | keyReply
  · refine ⟨fun columnRows keyRows _ hsays => ?_, fun _ => ⟨e.message, k₃.giveBack c₂, ?_⟩⟩
    · obtain ⟨_, ⟨⟩, -⟩ := hsays
    · simp only [Client.readCatalog, hlease, hcolumns, hkeys]
  rw [readCatalog_of_replies hlease hcolumns hkeys]
  constructor
  · intro columnRows keyRows hcolumnRows hkeyRows hcontiguous
    have hcatalog : catalogOf schema columnReply.rowList keyReply.rowList
        = .ok (assemble schema columnRows keyRows) :=
      catalogOf_eq_ok_iff.2
        ⟨_, (says_iff (fun _ _ => KeyRow.read_eq_ok_iff)).1 hkeyRows,
          _, (says_iff (fun _ _ => ColumnRow.read_eq_ok_iff)).1 hcolumnRows, rfl⟩
    rw [hcatalog]
    exact ⟨_, _, rfl, assembled hcontiguous schema keyRows⟩
  · intro hunreadable
    cases hcatalog : catalogOf schema columnReply.rowList keyReply.rowList with
    | error place => exact ⟨_, _, rfl⟩
    | ok catalog =>
        -- A catalog would need all rows of both answers.
        obtain ⟨keyRows, hkeyRows, columnRows, hcolumnRows, -⟩ := catalogOf_eq_ok_iff.1 hcatalog
        rcases hunreadable with hsilent | hsilent
        · obtain ⟨place, herror⟩ :=
            readAll_of_unreadable (fun _ _ => ColumnRow.read_eq_ok_iff) hsilent
          cases herror.symm.trans hcolumnRows
        · obtain ⟨place, herror⟩ :=
            readAll_of_unreadable (fun _ _ => KeyRow.read_eq_ok_iff) hsilent
          cases herror.symm.trans hkeyRows

end

namespace Sample

/-- Two tables, of which the first has two columns. The rows of the keys alternate between the
    tables, and one is about a table without columns. -/
def database : Database :=
  { (default : Database) with
    columnRows := some
      [[some "stays", some "guest", some "integer", some "f", none, some "1"],
        [some "stays", some "night", some "date", some "f", some "now()", some "3"],
        [some "guests", some "id", some "integer", some "f", none, some "1"]]
    keyRows := some
      [[some "stays", some "night"], [some "guests", some "id"], [some "rooms", some "number"],
        [some "stays", some "guest"]] }

/-- A pool of connections to the database that has opened none so far. -/
def client : Client :=
  ⟨⟨[("localhost", database)], [], []⟩, ⟨"localhost", false, [], 0, [], false⟩, 0⟩

/-- The answer to the query for columns, and what is there behind it. -/
def described : Except DriverError Reply × Connection × Client :=
  client.lease.2.query (.fresh 0 "localhost") (.columns "public")

def columnRows : List ColumnRow :=
  [⟨"stays", ⟨"guest", "integer", false, none, 1⟩⟩,
    ⟨"stays", ⟨"night", "date", false, some "now()", 3⟩⟩,
    ⟨"guests", ⟨"id", "integer", false, none, 1⟩⟩]

def keyRows : List KeyRow :=
  [⟨"stays", "night"⟩, ⟨"guests", "id"⟩, ⟨"rooms", "number"⟩, ⟨"stays", "guest"⟩]

end Sample

theorem sample_readCatalog_assembles :
    ∃ catalog k', Sample.client.readCatalog "public" = (.ok catalog, k') ∧
      catalog.tables.map Table.primaryKey = [["id"], ["night", "guest"]] ∧
      Assembled "public" Sample.columnRows Sample.keyRows catalog := by
  have hlease : Sample.client.lease = (.ok (.fresh 0 "localhost"), Sample.client.lease.2) := rfl
  have hcolumns : Sample.client.lease.2.query (.fresh 0 "localhost") (.columns "public")
      = (.ok (.rows (Sample.database.allColumnRows.map (typed catalogTypes))),
          Sample.described.2) := rfl
  have hkeys : Sample.described.2.2.query Sample.described.2.1 (.primaryKeys "public")
      = (.ok (.rows (Sample.database.allKeyRows.map (typed catalogTypes))), _) := rfl
  obtain ⟨catalog, k', hread, hassembled⟩ :=
    (readCatalog_assembles hlease hcolumns hkeys).1 Sample.columnRows Sample.keyRows
      ((says_iff (fun _ _ => ColumnRow.read_eq_ok_iff)).2 rfl)
      ((says_iff (fun _ _ => KeyRow.read_eq_ok_iff)).2 rfl) (by decide)
  refine ⟨catalog, k', hread, ?_, hassembled⟩
  have hcatalog : (Sample.client.readCatalog "public").1.toOption.map
      (fun c => c.tables.map Table.primaryKey) = some [["id"], ["night", "guest"]] := by
    decide +kernel
  rw [hread] at hcatalog
  exact Option.some.inj hcatalog

end Ferry.Postgres
