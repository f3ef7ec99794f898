import Ferry.Postgres.Decoder
import Ferry.Proofs.Adapt

set_option autoImplicit false

/-! # What decoders give

Which values the decoder of a column can give, and that all of them can be adapted to every column
that the column's type is reconciled with. The types are told apart by two tables, that of the
decoders and that of the kinds; `decoder_of_kind` is where these have to agree. -/

namespace Ferry.Postgres.Decoder

/-- The values that a decoder gives. -/
def yields : Decoder → Value → Bool
  | _, .null => true
  | bool, .bool _ => true
  | int2, .int _ | int4, .int _ | int8, .int _ => true
  | float4, .float _ | float8, .float _ => true
  | numeric, .decimal _ | numeric, .text _ => true
  | text, .text _ | cast, .text _ => true
  | bytes, .bytes _ => true
  | uuid, .uuid _ => true
  | timestamp, .timestamp _ => true
  | timestampUtc, .timestampUtc _ => true
  | date, .date _ => true
  | time, .time _ => true
  | json, .json _ => true
  | _, _ => false

theorem readNumeric_yields (s : String) : numeric.yields (readNumeric s) := by
  unfold readNumeric
  split
  · split <;> rfl
  · rfl

theorem read_yields {d : Decoder} {s : String} {v : Value} (h : d.read s = some v) :
    d.yields v := by
  cases d
  all_goals simp only [read, Option.map_eq_some_iff, Option.bind_eq_bind, Option.bind_eq_some_iff,
    Option.pure_def, Option.some.injEq] at h
  case numeric =>
    subst h
    exact readNumeric_yields s
  case bool | text | cast =>
    subst h
    rfl
  case timestamp | timestampUtc | date =>
    obtain ⟨n, -, m, -, rfl⟩ := h
    rfl
  all_goals
    obtain ⟨a, -, rfl⟩ := h
    rfl

/-- A decoder gives no other values. -/
theorem decode_yields {d : Decoder} {w : Wire} {v : Value} (h : d.decode w = some v) :
    d.yields v := by
  unfold decode at h
  split at h
  · cases h
  · split at h
    · cases h
      rfl
    · exact read_yields h

/-! ## Decoders and kinds -/

/-- The types that hold text or documents are read as such, or as text for want of a decoder. -/
theorem decoder_of_kind {t : String} (h : ColumnKind.ofType t ≠ .other) :
    ofNormal t = text ∨ ofNormal t = json ∨ ofNormal t = cast := by
  -- A type that has a decoder has one of finitely many names; any other is read as text.
  have htable : ∀ e ∈ typeNames, ∀ t ∈ e.2, ColumnKind.ofType t ≠ .other →
      e.1 = text ∨ e.1 = json := by decide +kernel
  unfold ofNormal
  cases hfind : typeNames.find? (fun e => e.2.contains t) with
  | none => exact .inr (.inr rfl)
  | some e =>
      have hnames := List.find?_some hfind
      rcases htable e (List.mem_of_find?_eq_some hfind) t (List.contains_iff_mem.1 hnames) h
        with htext | hjson
      · exact .inl htext
      · exact .inr (.inl hjson)

theorem hasDocument_of_yields {d : Decoder} {v : Value} (hd : d = text ∨ d = json ∨ d = cast)
    (h : d.yields v) : v.hasDocument := by
  rcases hd with rfl | rfl | rfl <;> cases v <;> simp [yields, Value.hasDocument] at h ⊢

/-- A value that was read from a column can be adapted to every column whose type the column's type
    is reconciled with. -/
theorem adapt_isOk_of_reconcilable {sourceType targetType name : String} {v : Value}
    (htypes : reconcilable sourceType targetType) (hv : (ofType sourceType).yields v) :
    (v.adapt (ColumnKind.ofType targetType) name).isOk := by
  have hjson : ∀ t ∈ structuredTypes, ofNormal t = json := by decide
  rw [Value.adapt_isOk_iff]
  intro hkind
  obtain ⟨hmem, hstructured⟩ := normal_of_structured hkind
  refine hasDocument_of_yields ?_ hv
  -- Types of one normal form are reconciled without a look at their kinds.
  by_cases hsame : normalizeType sourceType = normalizeType targetType
  · rw [ofType, hsame]
    exact .inr (.inl (hjson _ hmem))
  · refine decoder_of_kind (fun hother => ?_)
    simp [reconcilable, hsame, hother, hstructured] at htypes

end Ferry.Postgres.Decoder
