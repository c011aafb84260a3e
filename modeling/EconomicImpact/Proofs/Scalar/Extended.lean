import Mathlib.Tactic.Linarith
import EconomicImpact.Proofs.Scalar.Ordered

set_option autoImplicit false

namespace EconomicImpact

inductive Extended (K : Type)
  | number (a : K)
  | infinite (negative : Bool)
  | undefined
  deriving DecidableEq

namespace Extended

variable {K : Type} [Field K] [LinearOrder K]

def negate : Extended K → Extended K
  | number a => number (-a)
  | infinite negative => infinite (!negative)
  | undefined => undefined

def add : Extended K → Extended K → Extended K
  | number a, number b => number (a + b)
  | number _, infinite s | infinite s, number _ => infinite s
  | infinite s, infinite t => if s = t then infinite s else undefined
  | undefined, _ | _, undefined => undefined

def multiply : Extended K → Extended K → Extended K
  | number a, number b => number (a * b)
  | number a, infinite s | infinite s, number a =>
    if a = 0 then undefined else infinite (s != decide (a < 0))
  | infinite s, infinite t => infinite (s != t)
  | undefined, _ | _, undefined => undefined

def divide : Extended K → Extended K → Extended K
  | number a, number b =>
    if b ≠ 0 then number (a / b) else if a = 0 then undefined else infinite (decide (a < 0))
  | number _, infinite _ => number 0
  | infinite s, number a => infinite (s != decide (a < 0))
  | infinite _, infinite _ => undefined
  | undefined, _ | _, undefined => undefined

def less : Extended K → Extended K → Bool
  | number a, number b => decide (a < b)
  | number _, infinite s => !s
  | infinite s, number _ => s
  | infinite s, infinite t => s && !t
  | undefined, _ | _, undefined => false

def lessOrEqual : Extended K → Extended K → Bool
  | number a, number b => decide (a ≤ b)
  | number _, infinite s => !s
  | infinite s, number _ => s
  | infinite s, infinite t => s || !t
  | undefined, _ | _, undefined => false

-- Undefined values come last.
def precedes (a b : Extended K) : Bool := b == undefined || lessOrEqual a b

instance : Scalar (Extended K) where
  add := add
  sub a b := add a (negate b)
  mul := multiply
  div := divide
  neg := negate
  zero := number 0
  one := number 1
  natCast n := number (n : K)
  lt a b := less a b = true
  le a b := lessOrEqual a b = true
  decidableLt _ _ := inferInstance
  decidableLe _ _ := inferInstance
  abs
    | number a => number |a|
    | infinite _ => infinite false
    | undefined => undefined
  isFinite
    | number _ => true
    | _ => false
  precedes := precedes

theorem finite_iff (a : Extended K) : Scalar.isFinite a = true ↔ ∃ k, a = number k := by
  cases a <;> simp [Scalar.isFinite]

@[simp] theorem zero_eq : (0 : Extended K) = number 0 := rfl

@[simp] theorem number_add_number (a b : K) : number a + number b = number (a + b) := rfl

@[simp] theorem number_sub_number (a b : K) : number a - number b = number (a - b) :=
  congrArg number (sub_eq_add_neg a b).symm

@[simp] theorem number_add_infinite (a : K) (s : Bool) :
    number a + infinite s = infinite s := rfl

@[simp] theorem infinite_add_number (a : K) (s : Bool) :
    infinite s + number a = infinite s := rfl

@[simp] theorem infinite_sub_number (a : K) (s : Bool) :
    infinite s - number a = infinite s := rfl

@[simp] theorem number_le_number (a b : K) : number a ≤ number b ↔ a ≤ b := decide_eq_true_iff

@[simp] theorem number_le_infinite (a : K) (s : Bool) :
    number a ≤ infinite s ↔ s = false := by
  cases s <;> simp [LE.le, lessOrEqual]

@[simp] theorem infinite_le_number (a : K) (s : Bool) :
    infinite s ≤ number a ↔ s = true := Iff.rfl

@[simp] theorem infinite_le_infinite (s t : Bool) :
    infinite (K := K) s ≤ infinite t ↔ s = true ∨ t = false := by
  cases s <;> cases t <;> simp [LE.le, lessOrEqual]

@[simp] theorem not_undefined_le (a : Extended K) : ¬undefined ≤ a := by
  cases a <;> exact Bool.false_ne_true

@[simp] theorem not_le_undefined (a : Extended K) : ¬a ≤ undefined := by
  cases a <;> exact Bool.false_ne_true

@[simp] theorem number_lt_number (a b : K) : number a < number b ↔ a < b := decide_eq_true_iff

@[simp] theorem number_lt_infinite (a : K) (s : Bool) :
    number a < infinite s ↔ s = false := by
  cases s <;> simp [LT.lt, less]

@[simp] theorem infinite_lt_number (a : K) (s : Bool) :
    infinite s < number a ↔ s = true := Iff.rfl

@[simp] theorem infinite_lt_infinite (s t : Bool) :
    infinite (K := K) s < infinite t ↔ s = true ∧ t = false := by
  cases s <;> cases t <;> simp [LT.lt, less]

@[simp] theorem not_undefined_lt (a : Extended K) : ¬undefined < a := by
  cases a <;> exact Bool.false_ne_true

@[simp] theorem not_lt_undefined (a : Extended K) : ¬a < undefined := by
  cases a <;> exact Bool.false_ne_true

@[simp] theorem infinite_add_infinite (s t : Bool) :
    infinite (K := K) s + infinite t = if s = t then infinite s else undefined := rfl

@[simp] theorem undefined_add (a : Extended K) : undefined + a = undefined := by
  cases a <;> rfl

@[simp] theorem add_undefined (a : Extended K) : a + undefined = undefined := by
  cases a <;> rfl

@[simp] theorem undefined_sub (a : Extended K) : undefined - a = undefined := by
  cases a <;> rfl

theorem comparable_iff (a : Extended K) : Scalar.Comparable a ↔ a ≠ undefined := by
  cases a <;> simp [Scalar.Comparable]

theorem eq_of_le_of_ge {a b : Extended K} (le : a ≤ b) (ge : b ≤ a) : a = b := by
  cases a with
  | number a =>
      cases b with
      | number b =>
          rw [number_le_number] at le ge
          exact congrArg number (le_antisymm le ge)
      | infinite t => simp_all
      | undefined => exact absurd le (not_le_undefined _)
  | infinite s => cases s <;> cases b <;> simp_all
  | undefined => exact absurd le (not_undefined_le _)

instance [IsStrictOrderedRing K] : OrderedScalar (Extended K) where
  finite_zero := rfl
  comparable_of_finite a finite := by
    obtain ⟨a, rfl⟩ := (finite_iff a).mp finite
    simp [comparable_iff]
  comparable_of_le a b le := by
    rw [comparable_iff, comparable_iff]
    exact ⟨fun same => not_undefined_le _ (same ▸ le), fun same => not_le_undefined _ (same ▸ le)⟩
  le_trans a b c ab bc := by
    cases a with
    | number a =>
        cases b <;> cases c <;> simp_all
        exact ab.trans bc
    | infinite s => cases s <;> cases b <;> cases c <;> simp_all
    | undefined => simp at ab
  le_total a b left right := by
    rw [comparable_iff] at left right
    cases a with
    | number a =>
        cases b with
        | number b => simpa using le_total a b
        | infinite t => cases t <;> simp
        | undefined => exact absurd rfl right
    | infinite s =>
        cases b with
        | number b => cases s <;> simp
        | infinite t => cases s <;> cases t <;> simp
        | undefined => exact absurd rfl right
    | undefined => exact absurd rfl left
  lt_iff a b := by
    cases a with
    | number a =>
        cases b with
        | number b => simp only [number_lt_number, number_le_number, lt_iff_le_not_ge]
        | infinite t => cases t <;> simp
        | undefined => simp
    | infinite s => cases s <;> cases b <;> simp
    | undefined => simp
  eq_or_zeros _ _ le ge := .inl (eq_of_le_of_ge le ge)
  sub_nonpos a b finite le := by
    obtain ⟨b, rfl⟩ := (finite_iff b).mp finite
    cases a <;> simp_all
  sub_nonneg a b finite le := by
    obtain ⟨b, rfl⟩ := (finite_iff b).mp finite
    cases a <;> simp_all
  add_le_add a b c d ab cd left right := by
    rw [comparable_iff] at left right
    cases a <;> cases b <;> simp_all <;> cases c <;> cases d <;> simp_all
    exact add_le_add ab cd
  terms_comparable a b sum := by
    rw [comparable_iff] at sum ⊢
    rw [comparable_iff]
    cases a <;> cases b <;> simp_all
  add_finite a b comparable finite := by
    obtain ⟨b, rfl⟩ := (finite_iff b).mp finite
    rw [comparable_iff] at comparable ⊢
    cases a <;> simp_all

@[simp] theorem neg_number (a : K) : -number a = number (-a) := rfl

@[simp] theorem neg_infinite (s : Bool) : -infinite (K := K) s = infinite (!s) := rfl

@[simp] theorem neg_undefined : -(undefined : Extended K) = undefined := rfl

theorem precedes_iff (a b : Extended K) :
    Scalar.precedes a b = true ↔ b = undefined ∨ a ≤ b := by
  have defined : Scalar.precedes a b = (b == undefined || lessOrEqual a b) := rfl
  rw [defined, Bool.or_eq_true, beq_iff_eq]
  rfl

instance [IsStrictOrderedRing K] : SortedScalar (Extended K) where
  total a b := by
    rw [Bool.or_eq_true, precedes_iff, precedes_iff]
    cases a with
    | number a => cases b <;> simp [le_total]
    | infinite s => cases s <;> cases b <;> simp
    | undefined => simp
  trans a b c ab bc := by
    rw [precedes_iff] at ab bc ⊢
    cases a with
    | number a =>
        cases b <;> cases c <;> simp_all
        exact ab.trans bc
    | infinite s => cases s <;> cases b <;> cases c <;> simp_all
    | undefined => simp_all
  precedes_iff a b _ negative := by
    have defined : b ≠ undefined := by
      rintro rfl
      exact not_undefined_lt _ negative
    rw [precedes_iff, or_iff_right defined]
  neg_le_neg_iff a b := by
    cases a with
    | number a => cases b <;> simp
    | infinite s => cases s <;> cases b <;> simp
    | undefined => simp
  negative t a nonneg less := by
    cases a with
    | number a =>
        cases t <;> simp_all
        linarith
    | infinite s => cases t <;> simp_all
    | undefined => simp at less

end Extended

end EconomicImpact
