import Mathlib.Data.List.Forall2
import Mathlib.Tactic.Linarith
import EconomicImpact.Proofs.Constraint.Sense
import EconomicImpact.Proofs.Scalar.Exact

set_option autoImplicit false

namespace EconomicImpact

-- Only an undefined value is not comparable, not even to itself.
def Scalar.Comparable {α : Type} [Scalar α] (a : α) : Prop := a ≤ a

instance {α : Type} [Scalar α] : DecidablePred (Scalar.Comparable (α := α)) :=
  fun a => inferInstanceAs (Decidable (a ≤ a))

-- Scalars ordered like rounded numbers with two infinities, two zeros and undefined values. Sums may overflow,
-- and opposite infinities have no sum, so a law on sums asks that they are comparable.
class OrderedScalar (α : Type) [Scalar α] : Prop where
  finite_zero : Scalar.isFinite (0 : α) = true
  comparable_of_finite : ∀ a : α, Scalar.isFinite a = true → Scalar.Comparable a
  comparable_of_le : ∀ a b : α, a ≤ b → Scalar.Comparable a ∧ Scalar.Comparable b
  le_trans : ∀ a b c : α, a ≤ b → b ≤ c → a ≤ c
  le_total : ∀ a b : α, Scalar.Comparable a → Scalar.Comparable b → a ≤ b ∨ b ≤ a
  lt_iff : ∀ a b : α, a < b ↔ a ≤ b ∧ ¬b ≤ a
  eq_or_zeros : ∀ a b : α, a ≤ b → b ≤ a →
    a = b ∨ (Scalar.isZero a = true ∧ Scalar.isZero b = true)
  sub_nonpos : ∀ a b : α, Scalar.isFinite b = true → a ≤ b → a - b ≤ 0
  sub_nonneg : ∀ a b : α, Scalar.isFinite b = true → b ≤ a → 0 ≤ a - b
  add_le_add : ∀ a b c d : α, a ≤ b → c ≤ d → Scalar.Comparable (a + c) →
    Scalar.Comparable (b + d) → a + c ≤ b + d
  terms_comparable : ∀ a b : α, Scalar.Comparable (a + b) →
    Scalar.Comparable a ∧ Scalar.Comparable b
  add_finite : ∀ a b : α, Scalar.Comparable a → Scalar.isFinite b = true →
    Scalar.Comparable (a + b)

instance exact_ordered {K : Type} [Field K] [LinearOrder K] [IsStrictOrderedRing K] :
    OrderedScalar K where
  finite_zero := rfl
  comparable_of_finite a _ := le_refl a
  comparable_of_le a b _ := ⟨le_refl a, le_refl b⟩
  le_trans _ _ _ := le_trans
  le_total a b _ _ := le_total a b
  lt_iff _ _ := lt_iff_le_not_ge
  eq_or_zeros _ _ le ge := .inl (le_antisymm le ge)
  sub_nonpos _ _ _ le := sub_nonpos.mpr le
  sub_nonneg _ _ _ le := sub_nonneg.mpr le
  add_le_add _ _ _ _ ab cd _ _ := add_le_add ab cd
  terms_comparable a b _ := ⟨le_refl a, le_refl b⟩
  add_finite a b _ _ := le_refl (a + b)

-- Scalars with a sorting order that is a total preorder. It need not be the usual order, as a negative zero or
-- undefined values may have places of their own in it, but among negative numbers the two agree.
class SortedScalar (α : Type) [Scalar α] : Prop where
  total : ∀ a b : α, (Scalar.precedes a b || Scalar.precedes b a) = true
  trans : ∀ a b c : α, Scalar.precedes a b = true → Scalar.precedes b c = true →
    Scalar.precedes a c = true
  precedes_iff : ∀ a b : α, a < 0 → b < 0 → (Scalar.precedes a b = true ↔ a ≤ b)
  neg_le_neg_iff : ∀ a b : α, -a ≤ -b ↔ b ≤ a
  negative : ∀ t a : α, 0 ≤ t → t < -a → a < 0

instance exact_sorted {K : Type} [Field K] [LinearOrder K] [IsStrictOrderedRing K] :
    SortedScalar K where
  total a b := by
    simpa [Scalar.precedes] using le_total a b
  trans a b c ab bc :=
    decide_eq_true ((of_decide_eq_true ab).trans (of_decide_eq_true bc))
  precedes_iff _ _ _ _ := decide_eq_true_iff
  neg_le_neg_iff _ _ := neg_le_neg_iff
  negative _ _ nonneg less := neg_pos.mp (nonneg.trans_lt less)

namespace Scalar

variable {α : Type} [Scalar α] [OrderedScalar α]

theorem le_of_not_lt {a b : α} (left : Comparable a) (right : Comparable b) (notLess : ¬b < a) :
    a ≤ b := by
  rw [OrderedScalar.lt_iff, not_and_not_right] at notLess
  exact (OrderedScalar.le_total a b left right).elim id notLess

def bounded (sense : Sense) (a limit : α) : α :=
  match sense with
  | .upper => smaller a limit
  | .lower => larger a limit

theorem bounded_cases (sense : Sense) (a limit : α) (comparable : Comparable limit) :
    bounded sense a limit = limit ∨ bounded sense a limit = a ∧ sense.Within limit a := by
  cases sense with
  | upper =>
      by_cases less : limit < a
      · exact .inl (if_pos less)
      by_cases defined : a ≤ a
      · exact .inr ⟨(if_neg less).trans (if_pos defined), le_of_not_lt defined comparable less⟩
      · exact .inl ((if_neg less).trans (if_neg defined))
  | lower =>
      by_cases less : a < limit
      · exact .inl (if_pos less)
      by_cases defined : a ≤ a
      · exact .inr ⟨(if_neg less).trans (if_pos defined), le_of_not_lt comparable defined less⟩
      · exact .inl ((if_neg less).trans (if_neg defined))

theorem bounded_within (sense : Sense) (a limit : α) (comparable : Comparable limit) :
    sense.Within limit (bounded sense a limit) := by
  rcases bounded_cases sense a limit comparable with same | ⟨same, within⟩
  · rw [same]
    cases sense <;> exact comparable
  · rwa [same]

-- A sum of finite numbers may overflow, but it stays comparable.
theorem total_comparable (numbers : List α) (finite : ∀ a ∈ numbers, isFinite a = true) :
    Comparable (total numbers) := by
  have fold (start : α) (comparable : Comparable start) :
      Comparable (numbers.foldl (· + ·) start) := by
    induction numbers generalizing start with
    | nil => exact comparable
    | cons a rest ih =>
        obtain ⟨first, later⟩ := List.forall_mem_cons.mp finite
        exact ih later _ (OrderedScalar.add_finite start a comparable first)
  exact fold 0 (OrderedScalar.comparable_of_finite 0 OrderedScalar.finite_zero)

theorem comparable_start (numbers : List α) (start : α)
    (comparable : Comparable (numbers.foldl (· + ·) start)) : Comparable start := by
  induction numbers generalizing start with
  | nil => exact comparable
  | cons a rest ih => exact (OrderedScalar.terms_comparable start a (ih _ comparable)).1

theorem fold_le_fold {below above : List α} (le : List.Forall₂ (· ≤ ·) below above) {a b : α}
    (start : a ≤ b) (left : Comparable (below.foldl (· + ·) a))
    (right : Comparable (above.foldl (· + ·) b)) :
    below.foldl (· + ·) a ≤ above.foldl (· + ·) b := by
  induction le generalizing a b with
  | nil => exact start
  | cons first rest ih =>
      exact ih (OrderedScalar.add_le_add _ _ _ _ start first (comparable_start _ _ left)
        (comparable_start _ _ right)) left right

theorem total_le_total {below above : List α} (le : List.Forall₂ (· ≤ ·) below above)
    (left : Comparable (total below)) (right : Comparable (total above)) :
    total below ≤ total above :=
  fold_le_fold le (OrderedScalar.comparable_of_finite 0 OrderedScalar.finite_zero) left right

theorem total_within {sense : Sense} {limits values : List α}
    (finite : ∀ a ∈ limits, isFinite a = true) (within : List.Forall₂ sense.Within limits values)
    (comparable : Comparable (total values)) : sense.Within (total limits) (total values) := by
  have reference := total_comparable limits finite
  cases sense with
  | upper => exact total_le_total within.flip comparable reference
  | lower => exact total_le_total within reference comparable

end Scalar

end EconomicImpact
