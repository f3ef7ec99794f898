import Ferry.Value
import Mathlib.Tactic.Ring

set_option autoImplicit false

/-! # Equal values

When two values count as equal. Exact decimals are compared as numbers, so `1.50` equals `1.5`.
Floating-point numbers are compared as such: zero equals minus zero, and not-a-number equals
nothing, not even itself. Everything else is equal when it is the same. So equality is symmetric and
transitive, and a value equals itself unless it is not-a-number: `equals_self_iff`. -/

namespace Ferry

/-! ## Documents -/

namespace Document

mutual

theorem beq_self (a : Document) : a.beq a = true := by
  cases a with
  | null => rfl
  | bool | number | string => simp [beq]
  | array items => simpa [beq] using beqItems_self items
  | object members => simpa [beq] using beqMembers_self members

theorem beqItems_self (as : List Document) : beqItems as as = true := by
  cases as with
  | nil => rfl
  | cons a rest => simp [beqItems, beq_self a, beqItems_self rest]

theorem beqMembers_self (as : List (String × Document)) : beqMembers as as = true := by
  cases as with
  | nil => rfl
  | cons a rest => simp [beqMembers, beq_self a.2, beqMembers_self rest]

end

mutual

theorem eq_of_beq (a b : Document) (h : a.beq b = true) : a = b := by
  cases a <;> cases b <;> simp only [beq, Bool.false_eq_true, beq_iff_eq] at h
  all_goals first
    | rfl
    | rw [h]
    | exact congrArg _ (eq_of_beqItems _ _ h)
    | exact congrArg _ (eq_of_beqMembers _ _ h)

theorem eq_of_beqItems (as bs : List Document) (h : beqItems as bs = true) : as = bs := by
  cases as <;> cases bs <;> simp only [beqItems, Bool.and_eq_true, Bool.false_eq_true] at h
  · rfl
  · rw [eq_of_beq _ _ h.1, eq_of_beqItems _ _ h.2]

theorem eq_of_beqMembers (as bs : List (String × Document)) (h : beqMembers as bs = true) :
    as = bs := by
  cases as <;> cases bs <;>
    simp only [beqMembers, Bool.and_eq_true, beq_iff_eq, Bool.false_eq_true] at h
  · rfl
  · obtain ⟨⟨hkey, hvalue⟩, hrest⟩ := h
    rw [Prod.ext hkey (eq_of_beq _ _ hvalue), eq_of_beqMembers _ _ hrest]

end

theorem beq_eq_true_iff {a b : Document} : a.beq b = true ↔ a = b :=
  ⟨eq_of_beq a b, fun h => h ▸ beq_self a⟩

end Document

/-! ## Numbers -/

namespace Number

/-- Whether a number is zero, of either sign. -/
def Binary64.isZero (x : Binary64) : Bool := x.exponentField == 0 && x.fractionField == 0

/-- Equality of floating-point numbers. -/
def Binary64.equals (x y : Binary64) : Bool :=
  !x.isNaN && !y.isNaN && (x == y || x.isZero && y.isZero)

theorem Binary64.equals_iff {x y : Binary64} :
    x.equals y = true ↔
      x.isNaN = false ∧ y.isNaN = false ∧ (x = y ∨ x.isZero = true ∧ y.isZero = true) := by
  simp [equals, and_assoc]

theorem Binary64.equals_self_iff {x : Binary64} : x.equals x = true ↔ x.isNaN = false := by
  simp [equals_iff]

theorem Binary64.equals_symm {x y : Binary64} (h : x.equals y = true) : y.equals x = true := by
  obtain ⟨hx, hy, heq⟩ := equals_iff.1 h
  exact equals_iff.2 ⟨hy, hx, heq.imp Eq.symm And.symm⟩

theorem Binary64.equals_trans {x y z : Binary64} (hxy : x.equals y = true)
    (hyz : y.equals z = true) : x.equals z = true := by
  obtain ⟨hx, -, hfirst⟩ := equals_iff.1 hxy
  obtain ⟨-, hz, hsecond⟩ := equals_iff.1 hyz
  refine equals_iff.2 ⟨hx, hz, ?_⟩
  rcases hfirst with rfl | ⟨hx, hy⟩
  · exact hsecond
  · rcases hsecond with rfl | ⟨-, hz⟩
    · exact .inr ⟨hx, hy⟩
    · exact .inr ⟨hx, hz⟩

/-- Equality of decimals as numbers, whatever their scales. -/
def Decimal.equals (x y : Decimal) : Bool :=
  x.coefficient * 10 ^ y.scale == y.coefficient * 10 ^ x.scale

theorem Decimal.equals_iff {x y : Decimal} :
    x.equals y = true ↔ x.coefficient * 10 ^ y.scale = y.coefficient * 10 ^ x.scale := by
  rw [equals, beq_iff_eq]

theorem Decimal.equals_self (x : Decimal) : x.equals x = true := equals_iff.2 rfl

theorem Decimal.equals_symm {x y : Decimal} (h : x.equals y = true) : y.equals x = true :=
  equals_iff.2 (equals_iff.1 h).symm

theorem Decimal.equals_trans {x y z : Decimal} (hxy : x.equals y = true)
    (hyz : y.equals z = true) : x.equals z = true := by
  rw [equals_iff] at hxy hyz ⊢
  -- Both sides are multiplied by the power of ten that stands in the middle.
  have hpos : (10 : Int) ^ y.scale ≠ 0 := pow_ne_zero _ (by decide)
  refine Int.eq_of_mul_eq_mul_right hpos ?_
  calc x.coefficient * 10 ^ z.scale * 10 ^ y.scale
      = x.coefficient * 10 ^ y.scale * 10 ^ z.scale := by ring
    _ = y.coefficient * 10 ^ z.scale * 10 ^ x.scale := by rw [hxy]; ring
    _ = z.coefficient * 10 ^ x.scale * 10 ^ y.scale := by rw [hyz]; ring

end Number

/-! ## Values -/

namespace Value

/-- Whether the value is a floating-point number that is none. -/
def isNaN : Value → Bool
  | float x => x.isNaN
  | _ => false

/-- Equality of values. -/
def equals : Value → Value → Bool
  | null, null => true
  | bool a, bool b => a == b
  | int m, int n => m == n
  | float x, float y => x.equals y
  | decimal x, decimal y => x.equals y
  | text s, text t => s == t
  | bytes a, bytes b => a == b
  | uuid u, uuid v => u == v
  | timestamp m, timestamp n => m == n
  | timestampUtc m, timestampUtc n => m == n
  | date d, date e => d == e
  | time t, time u => t == u
  | json d, json e => d.beq e
  | _, _ => false

theorem equals_self_iff {v : Value} : v.equals v = true ↔ v.isNaN = false := by
  cases v with
  | float x => exact Number.Binary64.equals_self_iff
  | decimal x => exact iff_of_true x.equals_self rfl
  | json d => exact iff_of_true d.beq_self rfl
  | _ => simp [equals, isNaN]

theorem equals_symm {v w : Value} (h : v.equals w = true) : w.equals v = true := by
  cases v <;> cases w <;> first
    | contradiction
    | rfl
    | exact Number.Binary64.equals_symm h
    | exact Number.Decimal.equals_symm h
    | exact Document.beq_eq_true_iff.2 (Document.beq_eq_true_iff.1 h).symm
    | exact beq_iff_eq.2 (beq_iff_eq.1 h).symm

theorem equals_trans {u v w : Value} (huv : u.equals v = true) (hvw : v.equals w = true) :
    u.equals w = true := by
  cases u <;> cases v <;> try contradiction
  all_goals
    cases w <;> try contradiction
  case float.float.float => exact Number.Binary64.equals_trans huv hvw
  case decimal.decimal.decimal => exact Number.Decimal.equals_trans huv hvw
  case json.json.json =>
    rw [equals, Document.beq_eq_true_iff] at huv hvw ⊢
    exact huv.trans hvw
  all_goals
    first
    | rfl
    | exact beq_iff_eq.2 ((beq_iff_eq.1 huv).trans (beq_iff_eq.1 hvw))

end Value

end Ferry
