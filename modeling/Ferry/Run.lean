import Ferry.Classification
import Ferry.Config.Basic
import Ferry.Plan.Check
import Ferry.Transfer

set_option autoImplicit false

/-! # Runs

A run reads both catalogs, decides which tables to move and in which order, and moves them one by
one. A table that cannot be moved is skipped or fails on its own; only the catalogs can end the
run. A request to stop is looked for between tables: the table in flight is finished, and the
tables behind it are skipped. -/

namespace Ferry.Run

/-! ## Which tables -/

/-- The tables of a run in order: the listed ones, then those with the same columns on both sides
    if they are wanted too. Excluded tables are left out of both. -/
def order (settings : Settings) (c : Classification) : List Entry :=
  let excluded := settings.excludeTables
  let listed := settings.tables.map (·.table)
  settings.tables.filter (fun e => !excluded.contains e.table)
    ++ (if settings.includeIdentical then
          (c.identical.filter (fun n => !listed.contains n && !excluded.contains n)).map
            Entry.straightCopy
        else [])

/-- What is known when the tables are moved. -/
structure Setting where
  source : Catalog
  target : Catalog
  classification : Classification
  batchSize : Nat
  /-- Whether plans are only made and checked. -/
  dryRun : Bool

/-- What becomes of an entry before any row is read: a finished report, or a plan to carry out
    with the two tables. -/
inductive Decision
  | settled (report : TableReport)
  | carryOut (plan : Plan) (source target : Table)

/-- Decide about one entry. -/
def decide (setting : Setting) (entry : Entry) : Decision :=
  let name := entry.table
  match setting.source.get? name, setting.target.get? name with
  | none, _ => .settled (.skipped name "table not found in source")
  | _, none => .settled (.skipped name "table not found in target")
  | some source, some target =>
    if !entry.isAuthored && !setting.classification.isIdentical name then
      .settled (.skipped name "schemas differ and no column mapping is configured")
    else
      let plan := Plan.ofEntry entry source target
      match plan.check source target with
      | .error e => .settled (.failed name e.message 0 0)
      | .ok _ =>
        if setting.dryRun then .settled (.skipped name ("dry run: " ++ plan.describe))
        else .carryOut plan source target

section
variable {σ : Type} (b : Backend σ)

/-! ## Moving tables -/

/-- Decide about one entry and carry its plan out. -/
def runEntry (setting : Setting) (entry : Entry) (s : σ) : TableReport × σ :=
  match decide setting entry with
  | .settled report => (report, s)
  | .carryOut plan source target => Transfer.run b plan source target setting.batchSize s

/-- The report of a table that was not started. -/
def notStarted (entry : Entry) : TableReport := .skipped entry.table "cancelled"

/-- Move the tables of a list in order, until a stop is requested. The outcome tells whether
    tables were left out, and has one report for each entry. -/
def runEntries (setting : Setting) : List Entry → σ → (Bool × List TableReport) × σ
  | [], s => ((false, []), s)
  | entry :: rest, s =>
    if b.stopRequested s then ((true, (entry :: rest).map notStarted), s)
    else
      let (report, s) := runEntry b setting entry s
      let ((cancelled, reports), s) := runEntries setting rest s
      ((cancelled, report :: reports), s)

/-- Read the catalogs of both schemas, the source first. -/
def readCatalogs (config : Config) : Call σ (Catalog × Catalog) := fun s =>
  match b.sourceCatalog config.source.schema s with
  | (.error e, s) => (.error e, s)
  | (.ok source, s) =>
    match b.targetCatalog config.target.schema s with
    | (.error e, s) => (.error e, s)
    | (.ok target, s) => (.ok (source, target), s)

/-- Compare the tables of both databases. -/
def compare (config : Config) : Call σ Classification := fun s =>
  match readCatalogs b config s with
  | (.error e, s) => (.error e, s)
  | (.ok (source, target), s) => (.ok (classify source target), s)

/-- Move the tables of a configuration; `stamp` and `configHash` name the run in its report. -/
def migrate (config : Config) (dryRun : Bool) (stamp : RunStamp) (configHash : String) :
    Call σ RunReport := fun s =>
  match readCatalogs b config s with
  | (.error e, s) => (.error e, s)
  | (.ok (source, target), s) =>
    let classification := classify source target
    let setting := ⟨source, target, classification, config.migration.batchSize, dryRun⟩
    let ((cancelled, reports), s) :=
      runEntries b setting (order config.migration classification) s
    (.ok ⟨stamp, configHash, dryRun, cancelled, reports⟩, s)

/-! ## Counting rows -/

/-- The numbers of rows of a table on both sides. -/
structure CountCheck where
  table : String
  sourceRows : Int
  targetRows : Int
deriving DecidableEq, Inhabited

/-- Whether both sides have the same number of rows. -/
def CountCheck.isMatch (c : CountCheck) : Bool := c.sourceRows == c.targetRows

/-- The counts as a document. -/
def CountCheck.toDocument (c : CountCheck) : Document :=
  .object
    [("table", .string c.table), ("source_rows", .ofInt c.sourceRows),
     ("target_rows", .ofInt c.targetRows), ("matches", .bool c.isMatch)]

/-- Count the rows of the tables of a list on both sides. -/
def countEach (sourceSchema targetSchema : String) : List String → Call σ (List CountCheck)
  | [], s => (.ok [], s)
  | table :: rest, s =>
    match b.countSource sourceSchema table s with
    | (.error e, s) => (.error e, s)
    | (.ok m, s) =>
      match b.countTarget targetSchema table s with
      | (.error e, s) => (.error e, s)
      | (.ok n, s) =>
        match countEach sourceSchema targetSchema rest s with
        | (.error e, s) => (.error e, s)
        | (.ok checks, s) => (.ok (⟨table, m, n⟩ :: checks), s)

/-- Compare the row counts of every table of a run that both sides have. -/
def validate (config : Config) : Call σ (List CountCheck) := fun s =>
  match readCatalogs b config s with
  | (.error e, s) => (.error e, s)
  | (.ok (source, target), s) =>
    let tables := (order config.migration (classify source target)).map (·.table)
    countEach b config.source.schema config.target.schema
      (tables.filter (fun n => source.contains n && target.contains n)) s

/-! ## Probing -/

/-- Whether both databases answer. -/
structure Health where
  source : Probe
  target : Probe
deriving DecidableEq, Inhabited

def Health.isHealthy (h : Health) : Bool := h.source.connected && h.target.connected

/-- Probe both databases. -/
def healthCheck : Call σ Health := fun s =>
  match b.probe? with
  | none => (.error (.config "health check needs live database connections"), s)
  | some probe =>
    let ((source, target), s) := probe s
    (.ok ⟨source, target⟩, s)

end

end Ferry.Run
