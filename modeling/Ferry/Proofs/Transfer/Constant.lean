import Ferry.Config.Reader
import Ferry.Proofs.Number.Binary64
import Ferry.Proofs.Plan.Integer
import Ferry.Proofs.Scalar
import Ferry.Proofs.Transfer.Validation
import Ferry.Proofs.Yaml.Word
import Mathlib.Data.List.TakeWhile

set_option autoImplicit false

/-! # Integer constants on their way

What becomes of an integer that a configuration gives as a constant: `integer_constants_kept`. One
of 64 bits with sign is written as it is, into a column of any type. A greater one is a
floating-point number from the plan on, which no column of an integer type takes but any other
does, and what is written is the number nearest to it. -/

namespace Ferry

open Number (Binary64 DecimalNumeral FloatStyle)

/-! ## Integers of a configuration as values -/

theorem Text.inInt64_iff {n : Int} : Text.inInt64 n ↔ -2 ^ 63 ≤ n ∧ n < 2 ^ 63 := by
  simp [Text.inInt64, Nat.pow_eq]

theorem Text.inUInt64_iff {n : Int} : Text.inUInt64 n ↔ 0 ≤ n ∧ n < 2 ^ 64 := by
  simp [Text.inUInt64, Nat.pow_eq]

/-- An integer of 64 bits, with or without sign, is read from a configuration as it stands. -/
theorem Yaml.Data.ofPlain_of_int {n : Int} {text : String} (hlow : -2 ^ 63 ≤ n) (hhigh : n < 2 ^ 64)
    (h : Plain.meaning text = .int n) : ofPlain text = .ok (.int n) := by
  have h64 : (Text.inInt64 n || Text.inUInt64 n) = true := by
    rw [Bool.or_eq_true, Text.inInt64_iff, Text.inUInt64_iff]
    omega
  rw [ofPlain, h]
  exact if_pos h64

theorem Number.DecimalNumeral.parse?_repr (n : Nat) :
    parse? n.repr.toList = some ⟨false, n, 0⟩ := by
  have hdigits := Text.isDigit_repr n
  have hwhole : n.repr.toList.takeWhile Text.isDigit = n.repr.toList :=
    List.takeWhile_eq_self_iff.2 hdigits
  have hrest : n.repr.toList.dropWhile Text.isDigit = [] := List.dropWhile_eq_nil_iff.2 hdigits
  simp only [parse?, takeSign_of_isDigit hdigits, hwhole, hrest, List.append_nil,
    Text.natural?_repr, power?]
  rfl

namespace Value

variable {n : Int}

theorem ofLiteral_ofInt (h : Text.inInt64 n) : ofLiteral (.ofInt n) = int n := by
  show ofNumberText (toString n) = int n
  rw [ofNumberText, Text.int64?_toString h]

/-- An integer that needs all 64 bits becomes the nearest floating-point number. -/
theorem ofLiteral_wide (hlow : 2 ^ 63 ≤ n) (hhigh : n < 2 ^ 64) :
    ofLiteral (.ofInt n) = float (Binary64.ofDecimal false n.toNat 0) := by
  obtain ⟨m, rfl⟩ := Int.eq_ofNat_of_zero_le (show 0 ≤ n by omega)
  have hfinite := (Binary64.fraction_ofDecimal (n := m) (by omega) (by omega)).1
  have hnone : Text.int64? (toString (m : Int)) = none := by
    have hrange : ¬ Text.inInt64 m := by
      rw [Text.inInt64_iff]
      omega
    rw [Text.int64?, Text.integer?_toString, Option.filter_some, if_neg hrange]
  have hread : DecimalNumeral.parse? (toString (m : Int)).toList = some ⟨false, m, 0⟩ :=
    DecimalNumeral.parse?_repr m
  show ofNumberText (toString (m : Int)) = _
  simp only [ofNumberText, hnone, hread, DecimalNumeral.toBinary64, hfinite, if_true,
    Int.toNat_natCast]

end Value

/-! ## Constants and the rows that take them -/

namespace Constant

variable {name : String} {constant : Constant} {d : Document} {readColumns : List String}
  {row : Row}

/-- The document that a constant gives: its value, or the fallback of its column. -/
def document? : Constant → Option Document
  | column _ fallback => fallback
  | value d => some d

/-- A row takes a constant if that is a value, or if the column that goes before it is null. -/
def TakenBy (readColumns : List String) (row : Row) : Constant → Prop
  | column name _ => ∀ v, valueAt? name readColumns row = some v → v.isNull
  | value _ => True

theorem constant_bindingOf (h : constant.document? = some d) :
    (Plan.bindingOf (name, constant)).filling.constant = Value.ofLiteral d := by
  cases constant with
  | column reference fallback => cases h; rfl
  | value d => cases h; rfl

theorem resolve_bindingOf (h : constant.document? = some d)
    (htaken : constant.TakenBy readColumns row) :
    (Plan.bindingOf (name, constant)).resolve readColumns row = Value.ofLiteral d := by
  cases constant with
  | value d => cases h; rfl
  | column reference fallback =>
      cases h
      simp only [Plan.bindingOf, Binding.resolve]
      cases hvalue : valueAt? reference readColumns row with
      | none => rfl
      | some v => exact if_pos (htaken v hvalue)

end Constant

/-! ## What is written for an integer -/

/-- What is written into a column of a declared type denotes an integer: its literal is a numeral
    of that integer in a column of numbers and has its digits in a column of text, and in a column
    of documents it is the number with these digits. -/
structure Denotes (dataType : String) (n : Int) (w : Value) : Prop where
  numeral : ∀ type, NumericType.ofNormal? (normalizeType dataType) = some type →
    Text.integer? (Sql.literal w).toList = some n
  digits : ColumnKind.ofType dataType ≠ .structured → Sql.literal w = toString n
  document : ColumnKind.ofType dataType = .structured → w = .json (.ofInt n)

/-- What a finite floating-point number is in a column of a declared type. -/
def floatIn (dataType : String) (x : Binary64) : Value :=
  if ColumnKind.ofType dataType = .structured then .json (.number (FloatStyle.document.text x))
  else .float x

/-- What is written into a column of a declared type is the floating-point number nearest to a
    whole number that needs all 64 bits. -/
def Rounded (dataType : String) (n : Int) (w : Value) : Prop :=
  ∃ x : Binary64, x.isFinite ∧ x.fraction = (Number.roundDiv n.toNat (2 ^ 11) * 2 ^ 11, 1) ∧
    w = floatIn dataType x

section
variable {dataType name : String} {n : Int} {x : Binary64} {w : Value}

theorem denotes_of_adapt (h : (Value.int n).adapt (ColumnKind.ofType dataType) name = .ok w) :
    Denotes dataType n w := by
  by_cases hkind : ColumnKind.ofType dataType = .structured
  · refine ⟨fun type htype => ?_, fun hother => absurd hkind hother, fun _ => ?_⟩
    · have hother := NumericType.kind_of_ofNormal? htype
      rw [(normal_of_structured hkind).2] at hother
      cases hother
    · rw [hkind] at h
      cases h
      rfl
  · rw [Value.adapt_of_ne_structured hkind (by simp)] at h
    cases h
    exact ⟨fun _ _ => Text.integer?_toString n, fun _ => rfl, fun hstructured =>
      absurd hstructured hkind⟩

theorem eq_floatIn_of_adapt (hfinite : x.isFinite)
    (h : (Value.float x).adapt (ColumnKind.ofType dataType) name = .ok w) :
    w = floatIn dataType x := by
  by_cases hkind : ColumnKind.ofType dataType = .structured
  · rw [hkind, Value.adapt_structured (by simp) (by simp), Value.toDocument, if_pos hfinite] at h
    cases h
    exact (if_pos hkind).symm
  · rw [Value.adapt_of_ne_structured hkind (by simp)] at h
    cases h
    exact (if_neg hkind).symm

/-- What becomes of the value of an integer in a column. -/
theorem written_of_ofLiteral (hlow : -2 ^ 63 ≤ n) (hhigh : n < 2 ^ 64)
    (h : (Value.ofLiteral (.ofInt n)).adapt (ColumnKind.ofType dataType) name = .ok w) :
    (n < 2 ^ 63 → Denotes dataType n w) ∧ (2 ^ 63 ≤ n → Rounded dataType n w) := by
  constructor
  · intro hsmall
    rw [Value.ofLiteral_ofInt (Text.inInt64_iff.2 ⟨hlow, hsmall⟩)] at h
    exact denotes_of_adapt h
  · intro hwide
    obtain ⟨hfinite, hfraction⟩ :=
      Binary64.fraction_ofDecimal (n := n.toNat) (by omega) (by omega)
    rw [Value.ofLiteral_wide hwide hhigh] at h
    exact ⟨_, hfinite, hfraction, eq_floatIn_of_adapt hfinite h⟩

end

namespace Transfer

/-- A value that stands under a name that occurs once is adapted to what stands there afterwards. -/
theorem exists_mem_zip_adapted {names : List String} {kindOf : String → ColumnKind}
    {vs ws : List Value} {name : String} {v : Value}
    (h : adaptValues (names.map kindOf) names vs = .ok ws) (hmem : (name, v) ∈ names.zip vs) :
    ∃ w, (name, w) ∈ names.zip ws ∧ v.adapt (kindOf name) name = .ok w := by
  induction names generalizing vs ws with
  | nil => cases hmem
  | cons first rest ih =>
      cases vs with
      | nil => cases hmem
      | cons x xs =>
          simp only [List.map_cons, adaptValues, bind_eq_ok_iff, pure_eq_ok_iff] at h
          obtain ⟨w, hw, ws, hws, rfl⟩ := h
          rcases List.mem_cons.1 hmem with heq | hmem
          · cases heq
            exact ⟨w, .head _, hw⟩
          · obtain ⟨w', hmem', hw'⟩ := ih hws hmem
            exact ⟨w', .tail _ hmem', hw'⟩

/-- What is written under the name of a binding is what the binding gives, adapted, and nothing
    else. -/
theorem exists_written_of_binding {plan : Plan} {source target : Table} {row written : Row}
    {b : Binding} {t : Column} (h : plan.Sound source target)
    (hrow : row.length = plan.readColumns.length)
    (hwritten : adaptRow plan plan.readColumns (plan.writeColumns.map target.kindOf)
      plan.writeColumns row = .ok written)
    (hb : b ∈ plan.bindings) (ht : target.column? b.target = some t) :
    ∃ w, (∀ w', (b.target, w') ∈ plan.writeColumns.zip written ↔ w' = w) ∧
      (b.resolve plan.readColumns row).adapt (ColumnKind.ofType t.dataType) b.target = .ok w := by
  have hmem := (Plan.mem_zip_project_iff hrow h.pairs).2 (.inr ⟨b, hb, rfl, rfl⟩)
  obtain ⟨w, hw, hadapt⟩ := exists_mem_zip_adapted hwritten hmem
  rw [Table.kindOf_eq ht] at hadapt
  refine ⟨w, fun w' => ⟨fun hw' => eq_of_mem_zip h.writes_once hw' hw, ?_⟩, hadapt⟩
  rintro rfl
  exact hw

/-- What becomes of an integer of 64 bits, with or without sign, that a configuration gives as a
    value or as a fallback. It reaches the entry as it stands. If the plan of the entry passes its
    check there is a job for it, which adapts whatever rows the source delivers, and in every row
    that takes the constant just one value stands under the name of its column. That value denotes
    the integer if the integer is one of 64 bits with sign. If not, the column is of no integer
    type, and the value is the nearest floating-point number. -/
theorem integer_constants_kept (entry : Entry) (source target : Table) (batchSize : Nat)
    (name : String) (constant : Constant) (n : Int)
    (hcheck : (Plan.ofEntry entry source target).check source target = .ok ())
    (hconstant : (name, constant) ∈ entry.constants)
    (hdocument : constant.document? = some (.ofInt n)) (hlow : -2 ^ 63 ≤ n) (hhigh : n < 2 ^ 64) :
    (∀ text, Yaml.Plain.meaning text = .int n → Yaml.Data.ofPlain text = .ok (.int n)) ∧
      Constant.ofData (.mapping [(.string "value", .int n)]) = .ok (.value (.ofInt n)) ∧
      (∀ column, Constant.ofData
          (.mapping [(.string "column", .string column), (.string "fallback", .int n)])
        = .ok (.column column (some (.ofInt n)))) ∧
      ∃ job t, Job.ofPlan (Plan.ofEntry entry source target) source target batchSize = .ok job ∧
        target.column? name = some t ∧
        (2 ^ 63 ≤ n → ∀ type, NumericType.ofNormal? (normalizeType t.dataType) = some type →
          type.bits? = none) ∧
        (∀ rows, (∀ row ∈ rows, List.Forall₂ (Delivers source) job.readColumns row) →
          ∃ out, job.adapt rows = .ok out) ∧
        ∀ rows out, (∀ row ∈ rows, row.length = job.readColumns.length) →
          job.adapt rows = .ok out →
            List.Forall₂ (fun row written => constant.TakenBy job.readColumns row →
              ∃ w, (∀ w', (name, w') ∈ job.writeTarget.columns.zip written ↔ w' = w) ∧
                (n < 2 ^ 63 → Denotes t.dataType n w) ∧ (2 ^ 63 ≤ n → Rounded t.dataType n w))
              rows out := by
  refine ⟨fun text htext => ?_, ?_, fun column => ?_, ?_⟩
  · exact Yaml.Data.ofPlain_of_int hlow hhigh htext
  · rfl
  · rfl
  have hsound := Plan.check_eq_ok_iff.1 hcheck
  have hb := Plan.mem_bindings_ofEntry source target hconstant
  have hgives : (Plan.bindingOf (name, constant)).filling.constant = Value.ofLiteral (.ofInt n) :=
    Constant.constant_bindingOf hdocument
  obtain ⟨job, hjob⟩ := Job.exists_ofPlan_iff.2 hsound.has_read
  obtain ⟨t, ht⟩ := Option.ne_none_iff_exists'.1
    (hsound.has_target name (List.mem_append_right _ (List.mem_map_of_mem hb)))
  have hfits := (hsound.fills _ hb t ht).1
  refine ⟨job, t, hjob, ht, fun hwide type htype => ?_, fun rows hrows => ?_,
    fun rows out hrows hadapt => ?_⟩
  · rw [hgives, Value.ofLiteral_wide hwide hhigh] at hfits
    exact Value.bits?_of_fits_float htype hfits
  · have hread : job.readColumns = (Plan.ofEntry entry source target).readColumns := by
      obtain ⟨columns, -, rfl⟩ := Job.ofPlan_eq_ok_iff.1 hjob
      rfl
    rw [hread] at hrows
    obtain ⟨out, hout, -, -⟩ :=
      Job.exists_adapt_of_delivers hsound (Plan.ofEntry_finite _ _ _) hjob hrows
    exact ⟨out, hout⟩
  · obtain ⟨columns, -, rfl⟩ := Job.ofPlan_eq_ok_iff.1 hjob
    have hboth := (List.forall₂_and_left rows out).2 ⟨hrows, Job.adapt_eq_ok_iff.1 hadapt⟩
    refine hboth.imp (fun row written hrow htaken => ?_)
    obtain ⟨hlength, hwritten⟩ := hrow
    obtain ⟨w, hplace, hw⟩ := exists_written_of_binding hsound hlength hwritten hb ht
    rw [Constant.resolve_bindingOf hdocument htaken] at hw
    exact ⟨w, hplace, written_of_ofLiteral hlow hhigh hw⟩

theorem sample_integer_constants_kept :
    ∃ job out, Job.ofPlan Sample.ledgerPlan Sample.accounts Sample.ledger 100 = .ok job ∧
      job.adapt [[.int 1, .null]] = .ok out ∧
      ∃ written ∈ out, ∃ w, ("level", w) ∈ job.writeTarget.columns.zip written ∧
        Sql.literal w = "40000" := by
  obtain ⟨-, -, -, job, t, hjob, ht, -, hadapts, hkept⟩ := integer_constants_kept
    Sample.ledgerEntry Sample.accounts Sample.ledger 100 "level" (.value (.ofInt 40000)) 40000
    Sample.ledgerPlan_passes (.head _) rfl (by decide) (by decide)
  have hread : job.readColumns = ["id", "bonus"] := by
    obtain ⟨columns, -, rfl⟩ := Job.ofPlan_eq_ok_iff.1 hjob
    rfl
  have hrow : List.Forall₂ (Delivers Sample.accounts) job.readColumns [.int 1, .null] := by
    rw [hread]
    exact .cons (fun c hc => by cases hc; rfl) (.cons (fun c hc => by cases hc; rfl) .nil)
  obtain ⟨out, hout⟩ := hadapts [[.int 1, .null]] (by simpa using hrow)
  obtain ⟨written, rest, hwritten, -, rfl⟩ := List.forall₂_cons_left_iff.1
    (hkept _ out (by simp [hread]) hout)
  obtain ⟨w, hplace, hdenotes, -⟩ := hwritten trivial
  cases ht
  exact ⟨job, _, hjob, hout, written, .head _, w, (hplace w).2 rfl,
    (hdenotes (by decide)).digits (by decide)⟩

/-- The fallback of the total needs all 64 bits, and passes the check. What is written in its place
    is a number, but another one. -/
theorem sample_total_changed :
    Sample.ledgerPlan.check Sample.accounts Sample.ledger = .ok () ∧
      ("total", .column "bonus" (some (.ofInt 9223372036854775809)))
        ∈ Sample.ledgerEntry.constants ∧
      ∃ job x, Job.ofPlan Sample.ledgerPlan Sample.accounts Sample.ledger 100 = .ok job ∧
        job.writeTarget.columns = ["id", "level", "limit", "total"] ∧
        job.adapt [[.int 1, .null]]
          = .ok [[.int 1, .int 40000, .int 9000000000, .float x]] ∧
        Sql.literal (.float x) = "9223372036854776000" ∧
        ¬ Denotes "numeric(20,0)" 9223372036854775809 (.float x) := by
  have hliteral : Sql.literal (.float (Binary64.ofDecimal false 9223372036854775809 0))
      = "9223372036854776000" := by decide +kernel
  refine ⟨Sample.ledgerPlan_passes, .tail _ (.tail _ (.head _)), _,
    Binary64.ofDecimal false 9223372036854775809 0, rfl, rfl, rfl, hliteral, fun hdenotes => ?_⟩
  have hnumeral := hdenotes.numeral .decimal (by decide)
  rw [hliteral] at hnumeral
  exact absurd hnumeral (by decide)

end Transfer

end Ferry
