import Mathlib.Order.Interval.Set.UnorderedInterval
import EconomicImpact.Constraint.Kind

set_option autoImplicit false

namespace EconomicImpact

def Sense.Within {K : Type} [LE K] (sense : Sense) (limit value : K) : Prop :=
  match sense with
  | .upper => value ≤ limit
  | .lower => limit ≤ value

def Sense.opposite : Sense → Sense
  | .upper => .lower
  | .lower => .upper

theorem Sense.Within.refl {K : Type} [Preorder K] (sense : Sense) (a : K) : sense.Within a a := by
  cases sense <;> exact le_refl a

theorem Sense.Within.trans {K : Type} [Preorder K] {sense : Sense} {a b c : K}
    (first : sense.Within a b) (second : sense.Within b c) : sense.Within a c := by
  cases sense with
  | upper => exact le_trans second first
  | lower => exact le_trans first second

def Sense.clamp {K : Type} [LinearOrder K] (sense : Sense) (limit value : K) : K :=
  match sense with
  | .upper => min value limit
  | .lower => max value limit

section limit

variable {K : Type} [LinearOrder K] {sense : Sense} {limit value other a : K}

theorem Sense.Within.between (first : sense.Within limit value) (second : sense.Within limit other)
    (between : a ∈ Set.uIcc value other) : sense.Within limit a := by
  cases sense with
  | upper => exact between.2.trans (max_le first second)
  | lower => exact (le_min first second).trans between.1

theorem Sense.mem_uIcc_of_not_within (beyond : ¬sense.Within limit value)
    (within : sense.Within limit other) : limit ∈ Set.uIcc value other := by
  cases sense with
  | upper => exact Set.mem_uIcc_of_ge within (not_le.mp beyond).le
  | lower => exact Set.mem_uIcc_of_le (not_le.mp beyond).le within

-- What lies between a value and one beyond it lies beyond the one and short of the other.
theorem Sense.between_of_not_within (beyond : ¬sense.Within value other)
    (between : a ∈ Set.uIcc value other) : sense.Within other a ∧ sense.Within a value := by
  cases sense with
  | upper =>
      rw [Set.uIcc_of_le (not_le.mp beyond).le] at between
      exact ⟨between.2, between.1⟩
  | lower =>
      rw [Set.uIcc_of_ge (not_le.mp beyond).le] at between
      exact ⟨between.1, between.2⟩

theorem Sense.clamp_of_within (within : sense.Within limit value) :
    sense.clamp limit value = value := by
  cases sense with
  | upper => exact min_eq_left within
  | lower => exact max_eq_left within

theorem Sense.clamp_of_not_within (beyond : ¬sense.Within limit value) :
    sense.clamp limit value = limit := by
  cases sense with
  | upper => exact min_eq_right (not_le.mp beyond).le
  | lower => exact max_eq_right (not_le.mp beyond).le

theorem Sense.clamp_between (within : sense.Within limit other) :
    sense.clamp limit value ∈ Set.uIcc value other := by
  cases sense with
  | upper => exact ⟨min_le_min_left value within, (min_le_left _ _).trans (le_max_left _ _)⟩
  | lower => exact ⟨(min_le_left _ _).trans (le_max_left _ _), max_le_max_left value within⟩

end limit

end EconomicImpact
