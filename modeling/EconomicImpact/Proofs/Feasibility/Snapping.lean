import Mathlib
import EconomicImpact.Proofs.Constraint.Bound
import EconomicImpact.Proofs.Feasibility.Restraint

set_option autoImplicit false

namespace EconomicImpact.Feasibility

section scalar

variable {α : Type} [Scalar α] {n : Nat}

def landOn (tolerance : α) (i : Fin n) (v : α) (b : Bound α n) : α :=
  match b.single? with
  | some (j, w) =>
    if j = i ∧ Scalar.abs (w * v - b.limit) ≤ tolerance then b.limit / w else v
  | none => v

def landing (tolerance : α) (bounds : List (Bound α n)) (i : Fin n) (v : α) : α :=
  bounds.foldl (landOn tolerance i) v

def settledAt (tolerance : α) (u : Vector α n) (bounds : List (Bound α n)) (i : Fin n) (v : α) : α :=
  let landed := landing tolerance bounds i v
  let lowered := if movable .lower bounds i then landed else Scalar.smaller landed (u.get i)
  if movable .upper bounds i then lowered else Scalar.larger lowered (u.get i)

theorem snap_get (tolerance : α) (y : Vector α n) (b : Bound α n) (i : Fin n) :
    (snap tolerance y b).get i = landOn tolerance i (y.get i) b := by
  unfold snap landOn
  cases single : b.single? with
  | none => rfl
  | some term =>
      obtain ⟨j, w⟩ := term
      by_cases same : j = i
      · subst same
        by_cases near : Scalar.abs (w * y.get j - b.limit) ≤ tolerance
        · simp only [if_pos near, get_set, true_and, if_true]
        · simp only [if_neg near, true_and]
      · have other : ¬(j = i ∧ Scalar.abs (w * y.get i - b.limit) ≤ tolerance) :=
          fun both => same both.1
        by_cases near : Scalar.abs (w * y.get j - b.limit) ≤ tolerance
        · simp only [if_pos near, get_set, if_neg same, if_neg other]
        · simp only [if_neg near, if_neg other]

theorem snaps_get (tolerance : α) (bounds : List (Bound α n)) (y : Vector α n) (i : Fin n) :
    (bounds.foldl (snap tolerance) y).get i = landing tolerance bounds i (y.get i) := by
  unfold landing
  induction bounds generalizing y with
  | nil => rfl
  | cons b rest ih => rw [List.foldl_cons, List.foldl_cons, ih, snap_get]

theorem tidy_get (tolerance : α) (u : Vector α n) (bounds : List (Bound α n)) (y : Vector α n)
    (i : Fin n) :
    (tidy tolerance u bounds y).get i = settledAt tolerance u bounds i (y.get i) := by
  simp only [tidy, restrain, Vector.get_ofFn, snaps_get, settledAt]

end scalar

variable {K : Type} [Field K] [LinearOrder K] {n : Nat} (tolerance : K) (u : Vector K n)
  (bounds : List (Bound K n)) (i : Fin n)

-- How far one bound can carry the value of a sector, in units of output.
def reachOn (b : Bound K n) : K :=
  match b.single? with
  | some (j, w) => if j = i then tolerance / w else 0
  | none => 0

def reach : K := Scalar.total (bounds.map (reachOn tolerance i))

def drift (b : Bound K n) (z : Vector K n) : K :=
  -b.sense.direction * Scalar.total
    (b.terms.map fun (i, w) => w * (settledAt tolerance u bounds i (z.get i) - z.get i))

-- What a vector leaves of a bound.
def room (b : Bound K n) (z : Vector K n) : K := -b.sense.direction * (b.limit - b.lhs z)

def spread (b : Bound K n) : K :=
  Scalar.total (b.terms.map fun (i, w) => w * reach tolerance bounds i)

theorem lhs_tidy (b : Bound K n) (z : Vector K n) :
    b.lhs (tidy tolerance u bounds z) - b.lhs z =
      Scalar.total
        (b.terms.map fun (i, w) => w * (settledAt tolerance u bounds i (z.get i) - z.get i)) := by
  rw [Bound.lhs_sub_lhs, sum_amount_at, Scalar.total_eq_sum]
  simp only [tidy_get]

variable [IsStrictOrderedRing K] {tolerance u bounds}

theorem land_on_near (b : Bound K n) (sound : b.Sound) (nonneg : 0 ≤ tolerance) (v : K) :
    |landOn tolerance i v b - v| ≤ reachOn tolerance i b := by
  unfold landOn reachOn
  cases single : b.single? with
  | none => simp
  | some term =>
      obtain ⟨j, w⟩ := term
      have weight : 0 < w := sound.positive (j, w) (by simp [single_term b j w single])
      by_cases same : j = i
      · by_cases near : |w * v - b.limit| ≤ tolerance
        · have moved : b.limit / w - v = -(w * v - b.limit) / w := by
            field_simp
            ring
          simp only [same, Scalar.abs_exact, near, true_and, if_true]
          rw [moved, abs_div, abs_neg, abs_of_pos weight]
          exact div_le_div_of_nonneg_right near weight.le
        · simp only [same, Scalar.abs_exact, near, and_false, if_false, sub_self, abs_zero, if_true]
          exact div_nonneg nonneg weight.le
      · simp [same]

theorem landing_near (sound : ∀ b ∈ bounds, b.Sound) (nonneg : 0 ≤ tolerance) (v : K) :
    |landing tolerance bounds i v - v| ≤ reach tolerance bounds i := by
  induction bounds generalizing v with
  | nil => simp [landing, reach]
  | cons b rest ih =>
      have first := land_on_near i b (sound b List.mem_cons_self) nonneg v
      have later := ih (fun c member => sound c (List.mem_cons_of_mem b member))
        (landOn tolerance i v b)
      calc |landing tolerance (b :: rest) i v - v|
          = |(landing tolerance rest i (landOn tolerance i v b) - landOn tolerance i v b) +
              (landOn tolerance i v b - v)| := by
            rw [sub_add_sub_cancel]
            rfl
        _ ≤ |landing tolerance rest i (landOn tolerance i v b) - landOn tolerance i v b| +
              |landOn tolerance i v b - v| := abs_add_le _ _
        _ ≤ reach tolerance rest i + reachOn tolerance i b := add_le_add later first
        _ = reach tolerance (b :: rest) i := by
            simp only [reach, Scalar.total_eq_sum, List.map_cons, List.sum_cons]
            exact add_comm _ _

theorem settled_near_landing (v : K) (fallen : movable .lower bounds i = false → v ≤ u.get i)
    (risen : movable .upper bounds i = false → u.get i ≤ v) :
    |settledAt tolerance u bounds i v - v| ≤ |landing tolerance bounds i v - v| := by
  simp only [settledAt, Scalar.smaller_eq_min, Scalar.larger_eq_max]
  generalize landing tolerance bounds i v = landed
  cases raisable : movable .lower bounds i with
  | true =>
      cases lowerable : movable .upper bounds i with
      | true => simp
      | false =>
          have side := risen lowerable
          simp only [if_true, Bool.false_eq_true, if_false]
          rcases le_total landed (u.get i) with below | above
          · rw [max_eq_right below, abs_of_nonpos (by linarith), abs_of_nonpos (by linarith)]
            linarith
          · rw [max_eq_left above]
  | false =>
      have side := fallen raisable
      cases lowerable : movable .upper bounds i with
      | true =>
          simp only [if_true, Bool.false_eq_true, if_false]
          rcases le_total landed (u.get i) with below | above
          · rw [min_eq_left below]
          · rw [min_eq_right above, abs_of_nonneg (by linarith), abs_of_nonneg (by linarith)]
            linarith
      | false =>
          have same := le_antisymm side (risen lowerable)
          simp only [Bool.false_eq_true, if_false]
          rw [max_eq_right (min_le_right _ _), same, sub_self, abs_zero]
          exact abs_nonneg _

theorem violation_tidy_le_iff (b : Bound K n) (z : Vector K n) (excess : K) (nonneg : 0 ≤ excess) :
    b.violation (tidy tolerance u bounds z) ≤ excess ↔
      drift tolerance u bounds b z ≤ room b z + excess := by
  have moved := lhs_tidy tolerance u bounds b z
  rw [Bound.violation_le_iff _ _ _ nonneg, drift, room, ← moved]
  cases b.sense with
  | upper =>
      simp only [Sense.direction]
      constructor <;> intro within <;> linarith
  | lower =>
      simp only [Sense.direction]
      constructor <;> intro within <;> linarith

theorem drift_le_spread (sound : ∀ b ∈ bounds, b.Sound) (nonneg : 0 ≤ tolerance) (b : Bound K n)
    (listed : b ∈ bounds) (z : Vector K n)
    (fallen : ∀ i, movable .lower bounds i = false → z.get i ≤ u.get i)
    (risen : ∀ i, movable .upper bounds i = false → u.get i ≤ z.get i) :
    drift tolerance u bounds b z ≤ spread tolerance bounds b := by
  have each (i : Fin n) : |settledAt tolerance u bounds i (z.get i) - z.get i| ≤
      reach tolerance bounds i :=
    (settled_near_landing i (z.get i) (fallen i) (risen i)).trans
      (landing_near i sound nonneg (z.get i))
  simp only [drift, spread, Scalar.total_eq_sum, ← List.sum_map_mul_left]
  refine List.sum_le_sum ?_
  intro t member
  have weight := ((sound b listed).positive t member).le
  obtain ⟨least, greatest⟩ := abs_le.mp (each t.1)
  cases b.sense with
  | upper =>
      simp only [Sense.direction, neg_neg, one_mul]
      exact mul_le_mul_of_nonneg_left greatest weight
  | lower =>
      simp only [Sense.direction, neg_one_mul, ← mul_neg]
      exact mul_le_mul_of_nonneg_left (by linarith) weight

end EconomicImpact.Feasibility
