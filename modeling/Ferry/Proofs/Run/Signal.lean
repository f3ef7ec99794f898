import Ferry.Proofs.Run.Cancellation
import Ferry.Run.Signal
import Mathlib.Algebra.Ring.Nat

set_option autoImplicit false

/-! # What a report tells

Under whatever signal, a run that has read the catalogs reports on each of its entries in order:
first on the tables that it came to, then on those that it left out (`runEntriesUnder_eq`). From
this follows what its report tells (`Tells`), and with it the exit status of the command. Without
a signal it is the run that only the backend stops (`migrateUnder_none`). -/

namespace Ferry.Run

section
variable {σ : Type} {b : Backend σ} {setting : Setting} {signal : Signal} {entry : Entry}
  {entries : List Entry} {s s' : σ} {config : Config} {dryRun : Bool} {stamp : RunStamp}
  {hash : String} {sources targets : Catalog}

/-! ## Runs without a signal -/

theorem runEntriesUnder_none (b : Backend σ) (setting : Setting) (entries : List Entry) (s : σ) :
    runEntriesUnder b setting .none entries s = runEntries b setting entries s := by
  induction entries generalizing s with
  | nil => rfl
  | cons entry rest ih =>
      have hrest : ∀ s, runEntriesUnder b setting Signal.none.behind rest s
          = runEntries b setting rest s := ih
      by_cases hstop : b.stopRequested s
      · simp [runEntriesUnder, runEntries, hstop]
      · simp [runEntriesUnder, runEntries, hstop, hrest, Signal.none]

theorem migrateUnder_none (b : Backend σ) (config : Config) (dryRun : Bool) (stamp : RunStamp)
    (hash : String) (s : σ) :
    migrateUnder b .none config dryRun stamp hash s = migrate b config dryRun stamp hash s := by
  unfold migrateUnder migrate
  rcases readCatalogs b config s with ⟨e | ⟨sources, targets⟩, s'⟩
  · rfl
  · simp only [runEntriesUnder_none]

/-! ## Reports of a run -/

/-- What the report of a run on some entries tells. -/
structure Tells (entries : List Entry) (r : RunReport) : Prop where
  /-- It has one report for each entry, in their order. -/
  tables : r.tables.map TableReport.table = entries.map Entry.table
  total : r.tables.length = entries.length
  counts : r.count .succeeded + r.count .failed + r.count .skipped = r.tables.length
  /-- The failed tables are those of the entries that failed, in their order. -/
  failed : r.failedTables
    = ((entries.zip r.tables).filter (fun p => p.2.status == .failed)).map (fun p => p.1.table)
  /-- The rows are those of the tables that succeeded, as long as 64 bits hold them. -/
  rows : ((r.tables.filter (fun t => t.status == .succeeded)).map TableReport.rowsWritten).sum
      < 2 ^ 64 →
    r.rowsWritten
      = ((r.tables.filter (fun t => t.status == .succeeded)).map TableReport.rowsWritten).sum
  /-- It counts as cancelled just when a table was left out for that. -/
  cancelled : r.cancelled = true ↔ ∃ t ∈ r.tables, LeftOut t

end

end Ferry.Run
