import Ferry.Proofs.Pairing
import Ferry.Proofs.Run.Turns
import Ferry.Proofs.Transfer.Storage

set_option autoImplicit false

/-! # What a run leaves

A run leaves what the databases serve as it was, and of the target it changes the tables that it
moves and no others. So an entry finds its table as it was before the run, and leaves it as it is
behind the run, if every entry is of another table: `forall₂_runEntries` says this of all entries
together with their reports. -/

namespace Ferry.Run

variable {σ κ : Type} {b : Backend σ} {storage : Storage κ} {setting : Setting} {config : Config}
  {entries : List Entry} {s s' : σ} {t : Turn σ} {name : String}

/-! ## Turns -/

theorem Turn.Goes.service (S : Serves b) (h : t.Goes b setting) :
    S.service t.final = S.service t.start := by
  cases h with
  | settled => rfl
  | moved _ _ hmoves => exact hmoves.service S

/-- A turn leaves all tables but its own. -/
theorem Turn.Goes.content_of_ne (T : Stores b storage) (h : t.Goes b setting)
    (hname : name ≠ t.entry.table) : T.content t.final name = T.content t.start name := by
  cases h with
  | settled => rfl
  | moved hdecide hjob hmoves =>
      have hown := ((carried_of_decide hdecide).job_tables hjob).2
      rw [hmoves.stored T]
      split
      · refine Storage.after_of_unchanged (fun x hx hchanges => hname ?_)
        rw [(hmoves.concerns x hx).changes hchanges, hown]
      · rfl

/-- A table whose turn did not succeed is left as it was. -/
theorem Turn.Goes.kept (T : Stores b storage) (h : t.Goes b setting)
    (hreport : t.report.status ≠ .succeeded) :
    T.content t.final t.entry.table = T.content t.start t.entry.table := by
  cases h with
  | settled => rfl
  | @moved _ _ _ _ _ _ _ outcome _ _ _ _ hmoves =>
      cases outcome with
      | error e => exact congrFun (hmoves.stored T) _
      | ok u => exact absurd rfl hreport

/-! ## Runs of turns -/

theorem runEntries_service (S : Serves b) (entries : List Entry) (s : σ) :
    S.service (runEntries b setting entries s).2 = S.service s := by
  induction entries generalizing s with
  | nil => rfl
  | cons entry rest ih =>
      by_cases hstop : b.stopRequested s
      · simp only [runEntries, hstop, if_true]
      · simp only [runEntries, hstop, Bool.false_eq_true, if_false]
        exact (ih _).trans ((Turn.of_goes b setting entry s).service S)

theorem runEntries_content (T : Stores b storage) (s : σ)
    (hname : name ∉ entries.map Entry.table) :
    T.content (runEntries b setting entries s).2 name = T.content s name := by
  induction entries generalizing s with
  | nil => rfl
  | cons entry rest ih =>
      rw [List.map_cons, List.mem_cons, not_or] at hname
      by_cases hstop : b.stopRequested s
      · simp only [runEntries, hstop, if_true]
      · simp only [runEntries, hstop, Bool.false_eq_true, if_false]
        exact (ih _ hname.2).trans ((Turn.of_goes b setting entry s).content_of_ne T hname.1)

/-! ## How an entry comes out of a run -/

section
variable {final : σ}

/-- How an entry comes out of a run. It has had its turn, which found what is served and its table
    as they were and left the table as the run leaves it; or it was left out, and its table stays as
    it was. -/
inductive Comes (D : Databases b storage) (setting : Setting) (s final : σ) (entry : Entry) :
    TableReport → Prop
  | turned {t : Turn σ} (hentry : t.entry = entry) (hgoes : t.Goes b setting)
      (hserved : D.source.service t.start = D.source.service s)
      (hstart : D.target.content t.start entry.table = D.target.content s entry.table)
      (hfinal : D.target.content final entry.table = D.target.content t.final entry.table) :
      Comes D setting s final entry t.report
  | leftOut (hkept : D.target.content final entry.table = D.target.content s entry.table) :
      Comes D setting s final entry (notStarted entry)

/-- It does not matter what a run has read before its turns. -/
theorem Comes.of_same {D : Databases b storage} {ready : σ} {entry : Entry} {report : TableReport}
    (h : Comes D setting ready final entry report)
    (hserved : D.source.service ready = D.source.service s)
    (hkept : D.target.content ready = D.target.content s) :
    Comes D setting s final entry report := by
  cases h with
  | turned hentry hgoes hservice hstart hfinal =>
      exact .turned hentry hgoes (hservice.trans hserved) (hstart.trans (congrFun hkept _)) hfinal
  | leftOut hleft => exact .leftOut (hleft.trans (congrFun hkept _))

/-- Every report of a run tells how its entry came out of it. -/
theorem forall₂_runEntries (D : Databases b storage) (setting : Setting) (s : σ)
    (honce : (entries.map Entry.table).Nodup) :
    List.Forall₂ (Comes D setting s (runEntries b setting entries s).2) entries
      (runEntries b setting entries s).1.2 := by
  induction entries generalizing s with
  | nil => exact .nil
  | cons entry rest ih =>
      by_cases hstop : b.stopRequested s
      · simp only [runEntries, hstop, if_true]
        rw [List.forall₂_map_right_iff, List.forall₂_same]
        exact fun e _ => .leftOut rfl
      · rw [List.map_cons, List.nodup_cons] at honce
        obtain ⟨hfresh, hrest⟩ := honce
        have hgoes := Turn.of_goes b setting entry s
        have hstep : runEntries b setting (entry :: rest) s
            = (((runEntries b setting rest (Turn.of b setting entry s).final).1.1,
                (Turn.of b setting entry s).report
                  :: (runEntries b setting rest (Turn.of b setting entry s).final).1.2),
              (runEntries b setting rest (Turn.of b setting entry s).final).2) := by
          simp only [runEntries, hstop, Bool.false_eq_true, if_false]
          rfl
        rw [hstep]
        refine .cons (.turned rfl hgoes rfl rfl (runEntries_content D.target _ hfresh)) ?_
        -- The other tables are found behind the turn as they were before it.
        refine forall₂_imp_of_mem (fun e he report hcomes => ?_) (ih _ hrest)
        have hother : e.table ≠ entry.table := fun hsame =>
          hfresh (hsame ▸ List.mem_map_of_mem he)
        have hkept := hgoes.content_of_ne D.target hother
        cases hcomes with
        | turned hentry hturn hserved hstart hfinal =>
            exact .turned hentry hturn (hserved.trans (hgoes.service D.source))
              (hstart.trans hkept) hfinal
        | leftOut hleft => exact .leftOut (hleft.trans hkept)

end

/-! ## Catalogs -/

/-- Reading the catalogs leaves both databases, and gives those that are served. -/
theorem readCatalogs_reads (D : Databases b storage) {o : Except MigrationError (Catalog × Catalog)}
    (h : readCatalogs b config s = (o, s')) :
    D.source.service s' = D.source.service s ∧ D.target.content s' = D.target.content s ∧
      ∀ catalogs, o = .ok catalogs →
        catalogs = ((D.source.service s).sourceCatalog config.source.schema,
          (D.source.service s).targetCatalog config.target.schema) := by
  rcases hsource : b.sourceCatalog config.source.schema s with ⟨e | source, s₁⟩
  all_goals
    obtain ⟨hserved, hcatalog⟩ := D.source.sourceCatalog hsource
    have hkept := D.sourceCatalog hsource
  · simp only [readCatalogs, hsource] at h
    cases h
    exact ⟨hserved, hkept, fun catalogs hok => by cases hok⟩
  · rcases htarget : b.targetCatalog config.target.schema s₁ with ⟨e | target, s₂⟩
    all_goals
      obtain ⟨hserved', hcatalog'⟩ := D.source.targetCatalog htarget
      have hkept' := D.targetCatalog htarget
      simp only [readCatalogs, hsource, htarget] at h
      cases h
    · exact ⟨hserved'.trans hserved, hkept'.trans hkept, fun catalogs hok => by cases hok⟩
    · refine ⟨hserved'.trans hserved, hkept'.trans hkept, fun catalogs hok => ?_⟩
      cases hok
      rw [hcatalog source rfl, hcatalog' target rfl, hserved]

end Ferry.Run
