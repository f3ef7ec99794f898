import Ferry.Run

set_option autoImplicit false

/-! # Signals

A signal asks the program to stop while a run goes on. It may come at any time, but the run looks
for it only in front of a table. So all that matters of it is in front of which tables it is
there. The handler of a signal also waits for the shutdown timeout and then ends the program in the
middle of a table. That is a matter of the clock and is not part of this. -/

namespace Ferry

/-- Whether a signal is there in front of a table; zero is the next table. -/
abbrev Signal := Nat → Bool

namespace Signal

/-- No signal ever comes. -/
def none : Signal := fun _ => false

/-- The signal as it is seen from the table behind the next one. -/
def behind (signal : Signal) : Signal := fun place => signal (place + 1)

end Signal

namespace Run

section
variable {σ : Type} (b : Backend σ)

/-- Move the tables of a list in order, until a signal is there or the backend asks to stop. -/
def runEntriesUnder (setting : Setting) :
    Signal → List Entry → σ → (Bool × List TableReport) × σ
  | _, [], s => ((false, []), s)
  | signal, entry :: rest, s =>
    if signal 0 || b.stopRequested s then ((true, (entry :: rest).map notStarted), s)
    else
      let (report, s) := runEntry b setting entry s
      let ((cancelled, reports), s) := runEntriesUnder setting signal.behind rest s
      ((cancelled, report :: reports), s)

/-- Move the tables of a configuration, until a signal is there. -/
def migrateUnder (signal : Signal) (config : Config) (dryRun : Bool) (stamp : RunStamp)
    (configHash : String) : Call σ RunReport := fun s =>
  match readCatalogs b config s with
  | (.error e, s) => (.error e, s)
  | (.ok (source, target), s) =>
    let classification := classify source target
    let setting := ⟨source, target, classification, config.migration.batchSize, dryRun⟩
    let ((cancelled, reports), s) :=
      runEntriesUnder b setting signal (order config.migration classification) s
    (.ok ⟨stamp, configHash, dryRun, cancelled, reports⟩, s)

end

end Run

end Ferry
