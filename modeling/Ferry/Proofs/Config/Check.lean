import Ferry.Config.Check
import Ferry.Proofs.Identifier
import Mathlib.Tactic.SplitIfs

set_option autoImplicit false

/-! # What an accepted configuration promises

A configuration passes its check just when it is sound (`Config.check_eq_ok_iff`). So every name
that its entries give to a table or a column of their own can be quoted; of the names of the schemas
no more is known than that there are some, and of the columns that the constants refer to nothing at
all (`accepted_names_usable`). -/

namespace Ferry

/-! ## Sound configurations -/

/-- What the connection to a database needs. -/
structure Endpoint.Sound (e : Endpoint) : Prop where
  has_host : e.host ≠ ""
  has_database : e.database ≠ ""
  has_user : e.user ≠ ""
  has_schema : e.schema ≠ ""
  /-- Its encryption is one of those that there are, in upper or lower case. -/
  has_mode : SslMode.ofName? (Text.lower e.sslMode) ≠ none

/-- What the entries of a configuration need. -/
structure Entry.ListSound (entries : List Entry) : Prop where
  tables : ∀ e ∈ entries, Identifier.Usable e.table
  /-- No table is listed twice. -/
  once : (entries.map Entry.table).Nodup
  columns : ∀ e ∈ entries, ∀ name ∈ e.columnNames, Identifier.Usable name

/-- What a configuration needs to be accepted. -/
structure Config.Sound (c : Config) : Prop where
  source : c.source.Sound
  target : c.target.Sound
  two_databases : c.source.sameDatabase c.target = false
  batches : c.migration.batchSize ≠ 0
  connections : c.migration.maxConnections ≠ 0
  entries : Entry.ListSound c.migration.tables

section
variable {e : Endpoint} {side : String} {entries : List Entry} {seen names : List String}
  {c : Config}

theorem Endpoint.issue?_eq_none_iff : e.issue? side = none ↔ e.Sound := by
  unfold Endpoint.issue?
  constructor
  · intro h
    split_ifs at h with hhost hdatabase huser hschema hmode
    exact ⟨by simpa using hhost, by simpa using hdatabase, by simpa using huser,
      by simpa using hschema, by simpa using hmode⟩
  · rintro ⟨hhost, hdatabase, huser, hschema, hmode⟩
    simp [hhost, hdatabase, huser, hschema, hmode]

theorem findSome?_issue_eq_none_iff :
    names.findSome? Identifier.issue? = none ↔ ∀ name ∈ names, Identifier.Usable name := by
  simp only [List.findSome?_eq_none_iff, Identifier.usable_iff]

/-- By induction on the entries: each is looked at with the tables in front of it in view. -/
theorem Entry.issue?_eq_none_iff : Entry.issue? seen entries = none ↔
    Entry.ListSound entries ∧ ∀ e ∈ entries, e.table ∉ seen := by
  induction entries generalizing seen with
  | nil => simpa [Entry.issue?] using (⟨by simp, by simp, by simp⟩ : Entry.ListSound [])
  | cons e rest ih =>
      have hsound : Entry.ListSound (e :: rest) ↔ Identifier.Usable e.table ∧
          (∀ name ∈ e.columnNames, Identifier.Usable name) ∧
          Entry.ListSound rest ∧ ∀ other ∈ rest, other.table ≠ e.table := by
        constructor
        · rintro ⟨htables, honce, hcolumns⟩
          obtain ⟨htable, htables⟩ := List.forall_mem_cons.1 htables
          obtain ⟨hnew, honce⟩ := List.nodup_cons.1 honce
          obtain ⟨hcolumn, hcolumns⟩ := List.forall_mem_cons.1 hcolumns
          exact ⟨htable, hcolumn, ⟨htables, honce, hcolumns⟩,
            fun other hother heq => hnew (heq ▸ List.mem_map_of_mem hother)⟩
        · rintro ⟨htable, hcolumn, ⟨htables, honce, hcolumns⟩, hnew⟩
          refine ⟨List.forall_mem_cons.2 ⟨htable, htables⟩, List.nodup_cons.2 ⟨?_, honce⟩,
            List.forall_mem_cons.2 ⟨hcolumn, hcolumns⟩⟩
          rw [List.mem_map]
          rintro ⟨other, hother, heq⟩
          exact hnew other hother heq
      rw [hsound, Entry.issue?, Identifier.usable_iff, ← findSome?_issue_eq_none_iff,
        List.forall_mem_cons]
      cases Identifier.issue? e.table with
      | some issue => simp
      | none =>
          by_cases hseen : e.table ∈ seen
          · simp [hseen]
          · cases e.columnNames.findSome? Identifier.issue? with
            | some issue => simp [hseen]
            | none =>
                simp only [List.contains_iff_mem, hseen, if_false, ih, List.mem_cons, not_or,
                  true_and, not_false_eq_true]
                constructor
                · rintro ⟨hrest, hnew⟩
                  exact ⟨⟨hrest, fun other h => (hnew other h).1⟩, fun other h => (hnew other h).2⟩
                · rintro ⟨⟨hrest, hother⟩, hnew⟩
                  exact ⟨hrest, fun other h => ⟨hother other h, hnew other h⟩⟩

/-- A configuration is accepted just when it is sound. -/
theorem Config.check_eq_ok_iff : c.check = .ok () ↔ c.Sound := by
  have hissue : c.issue? = none ↔ c.Sound := by
    simp only [Config.issue?, Option.orElse_eq_orElse, Option.orElse_eq_or, Option.or_eq_none_iff,
      Endpoint.issue?_eq_none_iff, Settings.issue?]
    constructor
    · rintro ⟨hsource, htarget, hsame, hsettings⟩
      split_ifs at hsame hsettings with hdatabases hbatches hconnections
      exact ⟨hsource, htarget, by simpa using hdatabases, hbatches, hconnections,
        (Entry.issue?_eq_none_iff.1 hsettings).1⟩
    · rintro ⟨hsource, htarget, hsame, hbatches, hconnections, hentries⟩
      refine ⟨hsource, htarget, by simp [hsame], ?_⟩
      rw [if_neg hbatches, if_neg hconnections]
      exact Entry.issue?_eq_none_iff.2 ⟨hentries, by simp⟩
  rw [← hissue, Config.check]
  cases c.issue? <;> simp

end

/-! ## Names that are not looked at -/

/-- The constant with another column in place of the one that it refers to. -/
def Constant.referTo (f : String → String) : Constant → Constant
  | .column name fallback => .column (f name) fallback
  | .value d => .value d

/-- The entry with other columns in place of those that its constants refer to. -/
def Entry.referTo (f : String → String) (e : Entry) : Entry :=
  { e with constants := e.constants.map (fun c => (c.1, c.2.referTo f)) }

/-- The configuration with other schemas, and with other columns in place of those that its
    constants refer to. -/
def Config.rename (sourceSchema targetSchema : String) (f : String → String) (c : Config) :
    Config where
  source := { c.source with schema := sourceSchema }
  target := { c.target with schema := targetSchema }
  migration := { c.migration with tables := c.migration.tables.map (Entry.referTo f) }

section
variable {e : Endpoint} {entries : List Entry} {c : Config} {sourceSchema targetSchema : String}
  {f : String → String}

theorem Entry.columnNames_referTo (e : Entry) : (e.referTo f).columnNames = e.columnNames := by
  simp [columnNames, referTo, Function.comp_def]

theorem Endpoint.Sound.withSchema (h : e.Sound) {schema : String} (hschema : schema ≠ "") :
    Endpoint.Sound { e with schema := schema } :=
  ⟨h.has_host, h.has_database, h.has_user, hschema, h.has_mode⟩

theorem Entry.ListSound.referTo (h : Entry.ListSound entries) :
    Entry.ListSound (entries.map (Entry.referTo f)) where
  tables := List.forall_mem_map.2 h.tables
  once := by
    rw [List.map_map]
    exact h.once
  columns := List.forall_mem_map.2 (fun e he => (columnNames_referTo e).symm ▸ h.columns e he)

theorem Config.Sound.rename (h : c.Sound) (hsource : sourceSchema ≠ "")
    (htarget : targetSchema ≠ "") : (c.rename sourceSchema targetSchema f).Sound where
  source := h.source.withSchema hsource
  target := h.target.withSchema htarget
  two_databases := h.two_databases
  batches := h.batches
  connections := h.connections
  entries := h.entries.referTo

end

/-! ## What is promised -/

/-- A name that can be quoted. -/
def Identifier.Fits (name : String) : Prop :=
  (name ≠ "" ∧ '\x00' ∉ name.toList ∧ name.utf8ByteSize ≤ 63) ∧
    quote name = .ok (quotedForm name)

theorem Identifier.Usable.fits {name : String} (h : Usable name) : Fits name :=
  ⟨usable_iff_short.1 h, quote_eq_ok_iff.2 ⟨h, rfl⟩⟩

/-- In an accepted configuration the names of the tables, both names of every copied column, the
    columns that constants fill and those of the conflict keys can be quoted. Each schema has a
    name. No more is known of the schemas, and nothing of the columns that constants refer to: with
    any other names in these places the configuration is accepted as well. -/
theorem accepted_names_usable (c : Config) (h : c.check = .ok ()) :
    (∀ e ∈ c.migration.tables, Identifier.Fits e.table ∧
      (∀ p ∈ e.columns, Identifier.Fits p.source ∧ Identifier.Fits p.target) ∧
      (∀ filled ∈ e.constants, Identifier.Fits filled.1) ∧
      ∀ name ∈ e.conflictKey, Identifier.Fits name) ∧
    (c.source.schema ≠ "" ∧ c.target.schema ≠ "") ∧
    ∀ sourceSchema targetSchema f, sourceSchema ≠ "" → targetSchema ≠ "" →
      (c.rename sourceSchema targetSchema f).check = .ok () := by
  have hsound := Config.check_eq_ok_iff.1 h
  refine ⟨fun e he => ?_, ⟨hsound.source.has_schema, hsound.target.has_schema⟩,
    fun _ _ _ hsource htarget => Config.check_eq_ok_iff.2 (hsound.rename hsource htarget)⟩
  have hcolumn : ∀ name ∈ e.columnNames, Identifier.Fits name := fun name hname =>
    (hsound.entries.columns e he name hname).fits
  simp only [Entry.columnNames, List.mem_append, List.mem_flatMap, List.mem_map] at hcolumn
  refine ⟨(hsound.entries.tables e he).fits, fun p hp => ⟨?_, ?_⟩, fun filled hfilled => ?_,
    fun name hname => hcolumn name (.inr hname)⟩
  · exact hcolumn p.source (.inl (.inl ⟨p, hp, by simp⟩))
  · exact hcolumn p.target (.inl (.inl ⟨p, hp, by simp⟩))
  · exact hcolumn filled.1 (.inl (.inr ⟨filled, hfilled, rfl⟩))

namespace Sample

/-- A connection to a database on this machine. -/
def endpoint (database : String) : Endpoint where
  host := "localhost"
  port := Endpoint.defaultPort
  database := database
  user := "admin"
  password := "secret"
  schema := Endpoint.defaultSchema
  sslMode := "Require"

/-- One column is copied as it is and one is renamed; two others are filled, the first of them from
    a column without a name. -/
def membersEntry : Entry where
  table := "channel_member"
  mode := some .merge
  columns := [.same "id", .renamed "name" "full\"name"]
  constants := [("is_active", .value (.bool true)), ("joined_at", .column "" none)]
  conflictKey := ["id"]

def membersConfig : Config where
  source := endpoint "old"
  target := endpoint "new"
  migration := { Settings.default with tables := [.straightCopy "file", membersEntry] }

theorem membersConfig_accepted : membersConfig.check = .ok () := by rfl

end Sample

theorem sample_accepted_names_usable :
    Sample.membersConfig.check = .ok () ∧
      Identifier.quote "full\"name" = .ok "\"full\"\"name\"" ∧
      (Sample.membersConfig.rename "archive" "\x00" (fun _ => "\x00")).check = .ok () := by
  obtain ⟨hnames, -, hothers⟩ :=
    accepted_names_usable Sample.membersConfig Sample.membersConfig_accepted
  refine ⟨Sample.membersConfig_accepted, ?_, hothers _ _ _ (by decide) (by decide)⟩
  obtain ⟨-, hcolumns, -⟩ := hnames Sample.membersEntry (by simp [Sample.membersConfig])
  exact (hcolumns (.renamed "name" "full\"name") (.tail _ (.head _))).2.2

/-- The column that a constant refers to is not among the names that are checked: here it has no
    name in an accepted configuration, although quoting refuses such a name. The plan of the table
    is refused before anything is quoted, unless the table has a column of that name. -/
theorem sample_reference_unusable :
    Sample.membersConfig.check = .ok () ∧
      (∃ e ∈ Sample.membersConfig.migration.tables, ∃ filled ∈ e.constants,
        filled = ("joined_at", .column "" none)) ∧
      Identifier.quote "" = .error (.config "Identifier cannot be empty") := by
  refine ⟨Sample.membersConfig_accepted, ⟨Sample.membersEntry, ?_, _, .tail _ (.head _), rfl⟩, rfl⟩
  simp [Sample.membersConfig]

end Ferry
