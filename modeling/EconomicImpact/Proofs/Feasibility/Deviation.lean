import Mathlib
import EconomicImpact.Feasibility.Deviation
import EconomicImpact.Proofs.Constraint.Resolution
import EconomicImpact.Proofs.Scalar.Exact
import EconomicImpact.Proofs.SectorVector

set_option autoImplicit false

namespace EconomicImpact

open Deviation

theorem movable_eq_false_iff {α : Type} {n : Nat} (sense : Sense) (bounds : List (Bound α n))
    (i : Fin n) :
    movable sense bounds i = false ↔ ∀ b ∈ bounds, b.sense = sense → b.covers i = false := by
  simp [movable, List.any_eq_false]

variable {K : Type} [Field K] [LinearOrder K] {n : Nat}

@[simp] theorem amount_at_nil (i : Fin n) : amountAt ([] : List (Fin n × K)) i = 0 := rfl

theorem amount_at_cons (t : Fin n × K) (rest : List (Fin n × K)) (i : Fin n) :
    amountAt (t :: rest) i = (if t.1 = i then t.2 else 0) + amountAt rest i := by
  by_cases beside : t.1 = i
  · simp [amountAt, beside]
  · simp [amountAt, beside]

theorem sum_amount_at (terms : List (Fin n × K)) (f : Fin n → K) :
    ∑ i, amountAt terms i * f i = (terms.map fun t => t.2 * f t.1).sum := by
  induction terms with
  | nil => simp
  | cons t rest ih =>
      simp only [amount_at_cons, add_mul, ite_mul, zero_mul, Finset.sum_add_distrib, ih,
        List.map_cons, List.sum_cons]
      rw [Finset.sum_ite_eq, if_pos (Finset.mem_univ _)]

theorem amount_at_scale (factor : K) (terms : List (Fin n × K)) (i : Fin n) :
    amountAt (terms.map fun (j, p) => (j, factor * p)) i = factor * amountAt terms i := by
  induction terms with
  | nil => simp
  | cons t rest ih => simp only [List.map_cons, amount_at_cons, ih, mul_add, mul_ite, mul_zero]

theorem amount_at_absent (terms : List (Fin n × K)) (i : Fin n)
    (absent : i ∉ terms.map (·.1)) : amountAt terms i = 0 := by
  induction terms with
  | nil => rfl
  | cons t rest ih =>
      simp only [List.map_cons, List.mem_cons, not_or] at absent
      rw [amount_at_cons, if_neg (Ne.symm absent.1), ih absent.2, zero_add]

theorem amount_at_nonneg [IsStrictOrderedRing K] (terms : List (Fin n × K)) (i : Fin n)
    (nonneg : ∀ t ∈ terms, 0 ≤ t.2) : 0 ≤ amountAt terms i := by
  rw [amountAt, Scalar.total_eq_sum]
  refine List.sum_nonneg ?_
  intro amount member
  obtain ⟨t, listed, rfl⟩ := List.mem_map.mp member
  exact nonneg t (List.mem_filter.mp listed).1

theorem amount_at_zip_absent (sectors : List (Fin n)) (shares : List K) (i : Fin n)
    (absent : i ∉ sectors) : amountAt (sectors.zip shares) i = 0 := by
  refine amount_at_absent _ _ fun listed => absent ?_
  obtain ⟨pair, member, same⟩ := List.mem_map.mp listed
  rw [← same]
  exact (List.of_mem_zip member).1

namespace Bound

theorem basis_nonneg [IsStrictOrderedRing K] (b : Bound K n) (y : Vector K n) :
    ∀ p ∈ b.basis y, 0 ≤ p := by
  intro p member
  unfold basis at member
  by_cases positive : (b.sectors.map fun i => Scalar.larger (y.get i) 0).any fun p => decide (0 < p)
  · rw [if_pos positive] at member
    obtain ⟨i, -, rfl⟩ := List.mem_map.mp member
    simp
  · rw [if_neg positive] at member
    obtain ⟨q, -, rfl⟩ := List.mem_map.mp member
    exact zero_le_one

theorem basis_length (b : Bound K n) (y : Vector K n) :
    (b.basis y).length = b.sectors.length := by
  unfold basis
  by_cases positive : (b.sectors.map fun i => Scalar.larger (y.get i) 0).any fun p => decide (0 < p)
  · rw [if_pos positive, List.length_map]
  · rw [if_neg positive, List.length_map, List.length_map]

theorem basis_some_pos [IsStrictOrderedRing K] (b : Bound K n) (y : Vector K n)
    (nonempty : b.terms ≠ []) : ∃ p ∈ b.basis y, 0 < p := by
  unfold basis
  by_cases positive : (b.sectors.map fun i => Scalar.larger (y.get i) 0).any fun p => decide (0 < p)
  · rw [if_pos positive]
    simpa using positive
  · rw [if_neg positive]
    obtain ⟨t, rest, terms⟩ := List.exists_cons_of_ne_nil nonempty
    exact ⟨1, by simp [sectors, terms], zero_lt_one⟩

theorem basis_sum_pos [IsStrictOrderedRing K] (b : Bound K n) (y : Vector K n)
    (nonempty : b.terms ≠ []) : 0 < (b.basis y).sum := by
  obtain ⟨p, member, positive⟩ := b.basis_some_pos y nonempty
  exact lt_of_lt_of_le positive (List.single_le_sum (b.basis_nonneg y) p member)

def share (b : Bound K n) (y : Vector K n) (i : Fin n) : K :=
  amountAt (b.sectors.zip (b.basis y)) i

theorem share_absent (b : Bound K n) (y : Vector K n) (i : Fin n) (uncovered : i ∉ b.sectors) :
    b.share y i = 0 :=
  amount_at_zip_absent b.sectors (b.basis y) i uncovered

theorem share_nonneg [IsStrictOrderedRing K] (b : Bound K n) (y : Vector K n) (i : Fin n) :
    0 ≤ b.share y i := by
  refine amount_at_nonneg _ _ fun t member => ?_
  exact b.basis_nonneg y t.2 (List.of_mem_zip member).2

theorem lhs_eq_sum (b : Bound K n) (y : Vector K n) :
    b.lhs y = ∑ i, amountAt b.terms i * y.get i := by
  rw [sum_amount_at, lhs, Scalar.total_eq_sum]

theorem lhs_sub_lhs (b : Bound K n) (y z : Vector K n) :
    b.lhs y - b.lhs z = ∑ i, amountAt b.terms i * (y.get i - z.get i) := by
  rw [lhs_eq_sum, lhs_eq_sum, ← Finset.sum_sub_distrib]
  exact Finset.sum_congr rfl fun i _ => (mul_sub _ _ _).symm

theorem violation_nonneg (b : Bound K n) (y : Vector K n) : 0 ≤ b.violation y := by
  cases sense : b.sense <;> simp [violation, sense]

theorem violation_le_iff (b : Bound K n) (y : Vector K n) (excess : K) (nonneg : 0 ≤ excess) :
    b.violation y ≤ excess ↔
      match b.sense with
      | .upper => b.lhs y - b.limit ≤ excess
      | .lower => b.limit - b.lhs y ≤ excess := by
  cases sense : b.sense <;> simp [violation, sense, nonneg]

theorem met_iff [IsStrictOrderedRing K] (b : Bound K n) (y : Vector K n) :
    b.violation y = 0 ↔
      match b.sense with
      | .upper => b.lhs y ≤ b.limit
      | .lower => b.limit ≤ b.lhs y := by
  rw [← (b.violation_nonneg y).ge_iff_eq', b.violation_le_iff y 0 (le_refl 0)]
  cases b.sense <;> simp only [sub_nonpos]

end Bound

theorem move_get (shares : List (Fin n × K)) (amount : K) (y : Vector K n) (i : Fin n) :
    (shares.foldl (fun y (j, share) => y.set j (y.get j + share * amount) j.isLt) y).get i =
      y.get i + amountAt shares i * amount := by
  induction shares generalizing y with
  | nil => simp
  | cons t rest ih =>
      rw [List.foldl_cons, ih, get_set, amount_at_cons]
      by_cases beside : t.1 = i
      · rw [if_pos beside, if_pos beside, beside]
        ring
      · rw [if_neg beside, if_neg beside]
        ring

theorem move_groups_get {γ : Type} (groups : List γ) (shares : γ → List (Fin n × K))
    (amount : γ → K) (y : Vector K n) (i : Fin n) :
    (groups.foldl (fun y g => (shares g).foldl
      (fun y (j, share) => y.set j (y.get j + share * amount g) j.isLt) y) y).get i =
      y.get i + (groups.map fun g => amountAt (shares g) i * amount g).sum := by
  induction groups generalizing y with
  | nil => simp
  | cons g rest ih =>
      rw [List.foldl_cons, ih, move_get, List.map_cons, List.sum_cons]
      ring

theorem sum_filter_of_zero {γ : Type} (items : List γ) (kept : γ → Bool) (f : γ → K)
    (zero : ∀ g ∈ items, kept g = false → f g = 0) :
    ((items.filter kept).map f).sum = (items.map f).sum := by
  induction items with
  | nil => rfl
  | cons g rest ih =>
      have later := ih fun h member => zero h (List.mem_cons_of_mem _ member)
      cases keep : kept g with
      | true => rw [List.filter_cons_of_pos keep, List.map_cons, List.sum_cons, later, List.map_cons,
          List.sum_cons]
      | false =>
          rw [List.filter_cons_of_neg (by simp [keep]), later, List.map_cons, List.sum_cons,
            zero g List.mem_cons_self keep, zero_add]

theorem Move.mem_all {k : Nat} (v : Move n k) : v ∈ Move.all n k := by
  cases v <;> simp [Move.all]

namespace Deviation

variable (u : Vector K n) (bounds : List (Bound K n)) (penalty : K)

theorem weigh_moves {k : Nat} (weight x : Move n k → K) :
    Scalar.total ((Move.all n k).map fun v => weight v * x v) =
      (∑ i, weight (.raise i) * x (.raise i)) + (∑ i, weight (.lower i) * x (.lower i)) +
        (∑ g, weight (.scale g) * x (.scale g)) + ∑ g, weight (.slack g) * x (.slack g) := by
  simp only [Scalar.total_eq_sum, Move.all, List.map_append, List.sum_append, List.map_map,
    Fin.sum_univ_def, Function.comp_def]

variable {x : Move n bounds.length → K}

-- The signs and zeros that the program asks of an assignment, its rows left aside.
structure Allowed (x : Move n bounds.length → K) : Prop where
  nonneg : ∀ v, 0 ≤ x v
  fixed_zero : ∀ v, (program u bounds penalty).fixed v = true → x v = 0

theorem moved_raise (allowed : Allowed u bounds penalty x) (i : Fin n) :
    moved (movable .lower bounds i) (x (.raise i)) = x (.raise i) := by
  cases movable : movable .lower bounds i with
  | true => simp [moved, allowed.nonneg (.raise i)]
  | false =>
      have held := allowed.fixed_zero (.raise i) (by simp [program, movable])
      simp [moved, held]

theorem moved_lower (allowed : Allowed u bounds penalty x) (i : Fin n) :
    moved (movable .upper bounds i) (x (.lower i)) = x (.lower i) := by
  cases movable : movable .upper bounds i with
  | true => simp [moved, allowed.nonneg (.lower i)]
  | false =>
      have held := allowed.fixed_zero (.lower i) (by simp [program, movable])
      simp [moved, held]

theorem moved_scale (allowed : Allowed u bounds penalty x) (g : Fin bounds.length) :
    moved true (x (.scale g)) = x (.scale g) := by
  simp [moved, allowed.nonneg (.scale g)]

-- The formula of an assignment's vector, without the guards that signs and zeros make idle.
theorem decode_get (allowed : Allowed u bounds penalty x) (i : Fin n) :
    (decode u bounds x).get i = u.get i + x (.raise i) - x (.lower i) +
      ∑ g, amountAt (groupShifts u (bounds.get g)) i * x (.scale g) := by
  have single (g : Fin bounds.length) (kept : (!(bounds.get g).isSingle) = false) :
      amountAt (groupShifts u (bounds.get g)) i * moved true (x (.scale g)) = 0 := by
    have held := allowed.fixed_zero (.scale g) (by simpa [program] using kept)
    simp [moved, held]
  rw [decode, move_groups_get, sum_filter_of_zero _ _ _ fun g _ => single g, Vector.get_ofFn,
    moved_raise u bounds penalty allowed, moved_lower u bounds penalty allowed,
    Fin.sum_univ_def]
  simp only [moved_scale u bounds penalty allowed]

theorem group_shift (b : Bound K n) (i : Fin n) :
    amountAt (groupShifts u b) i = b.sense.direction * b.share u i :=
  amount_at_scale _ _ _

theorem effect_scale (c g : Fin bounds.length) :
    effect u bounds c (.scale g) =
      ∑ i, amountAt (bounds.get c).terms i * amountAt (groupShifts u (bounds.get g)) i := by
  rw [sum_amount_at, effect, Scalar.total_eq_sum]

theorem row_value (allowed : Allowed u bounds penalty x) (c : Fin bounds.length) :
    (program u bounds penalty).weigh (effect u bounds c) x =
      (bounds.get c).lhs (decode u bounds x) - (bounds.get c).lhs u +
        (bounds.get c).sense.direction * x (.slack c) := by
  have groups : ∑ g, effect u bounds c (.scale g) * x (.scale g) =
      ∑ i, amountAt (bounds.get c).terms i *
        ∑ g, amountAt (groupShifts u (bounds.get g)) i * x (.scale g) := by
    simp only [effect_scale, Finset.sum_mul, Finset.mul_sum, mul_assoc]
    exact Finset.sum_comm
  have slack : ∑ g, effect u bounds c (.slack g) * x (.slack g) =
      (bounds.get c).sense.direction * x (.slack c) := by
    simp only [effect, ite_mul, zero_mul]
    rw [Finset.sum_ite_eq', if_pos (Finset.mem_univ _)]
  have moved : (bounds.get c).lhs (decode u bounds x) - (bounds.get c).lhs u =
      ∑ i, (amountAt (bounds.get c).terms i * x (.raise i) +
        -amountAt (bounds.get c).terms i * x (.lower i) +
        amountAt (bounds.get c).terms i *
          ∑ g, amountAt (groupShifts u (bounds.get g)) i * x (.scale g)) := by
    rw [Bound.lhs_sub_lhs]
    refine Finset.sum_congr rfl fun i _ => ?_
    rw [decode_get u bounds penalty allowed]
    ring
  have weighed := weigh_moves (effect u bounds c) x
  rw [groups, slack] at weighed
  rw [moved, Finset.sum_add_distrib, Finset.sum_add_distrib]
  exact weighed

section ordered

variable [IsStrictOrderedRing K]

theorem row_holds_iff (allowed : Allowed u bounds penalty x) (c : Fin bounds.length) :
    (program u bounds penalty).rowHolds ⟨effect u bounds c, (bounds.get c).sense,
        (bounds.get c).limit - (bounds.get c).lhs u⟩ x ↔
      (bounds.get c).violation (decode u bounds x) ≤ x (.slack c) := by
  have value := row_value u bounds penalty allowed c
  rw [Bound.violation_le_iff _ _ _ (allowed.nonneg _)]
  cases sense : (bounds.get c).sense with
  | upper =>
      simp only [LinearProgram.rowHolds, value, sense, Sense.direction]
      constructor <;> intro holds <;> linarith
  | lower =>
      simp only [LinearProgram.rowHolds, value, sense, Sense.direction]
      constructor <;> intro holds <;> linarith

theorem feasible_iff :
    (program u bounds penalty).Feasible x ↔ Allowed u bounds penalty x ∧
      ∀ c : Fin bounds.length,
        (bounds.get c).violation (decode u bounds x) ≤ x (.slack c) := by
  constructor
  · intro feasible
    have allowed : Allowed u bounds penalty x := ⟨feasible.nonneg, feasible.fixed_zero⟩
    refine ⟨allowed, fun c => (row_holds_iff u bounds penalty allowed c).mp ?_⟩
    exact feasible.rows_hold _ (List.mem_map_of_mem (List.mem_finRange c))
  · rintro ⟨allowed, within⟩
    refine ⟨allowed.nonneg, allowed.fixed_zero, ?_⟩
    intro row member
    obtain ⟨c, -, rfl⟩ := List.mem_map.mp member
    exact (row_holds_iff u bounds penalty allowed c).mpr (within c)

theorem allowed_of_feasible (feasible : (program u bounds penalty).Feasible x) :
    Allowed u bounds penalty x :=
  ((feasible_iff u bounds penalty).mp feasible).1

theorem violation_le_slack (feasible : (program u bounds penalty).Feasible x)
    (c : Fin bounds.length) :
    (bounds.get c).violation (decode u bounds x) ≤ x (.slack c) :=
  ((feasible_iff u bounds penalty).mp feasible).2 c

theorem hard_bound_met (feasible : (program u bounds penalty).Feasible x) (b : Bound K n)
    (listed : b ∈ bounds) (hard : b.isHard = true) : b.violation (decode u bounds x) = 0 := by
  obtain ⟨c, rfl⟩ := List.get_of_mem listed
  have unpaid := feasible.fixed_zero (.slack c) hard
  have below := violation_le_slack u bounds penalty feasible c
  rw [unpaid] at below
  exact le_antisymm below (Bound.violation_nonneg _ _)

omit [IsStrictOrderedRing K] in
theorem share_of_uncalled (sense : Sense) (i : Fin n)
    (uncalled : movable sense bounds i = false) (g : Fin bounds.length)
    (same : (bounds.get g).sense = sense) : (bounds.get g).share u i = 0 := by
  rw [movable_eq_false_iff] at uncalled
  have uncovered := uncalled _ (List.get_mem bounds g) same
  exact (bounds.get g).share_absent u i (by simpa [Bound.covers] using uncovered)

theorem decode_le (feasible : (program u bounds penalty).Feasible x) (i : Fin n)
    (unraised : movable .lower bounds i = false) : (decode u bounds x).get i ≤ u.get i := by
  have held := feasible.fixed_zero (.raise i) (by simp [program, unraised])
  have lowered := feasible.nonneg (.lower i)
  have groups : ∑ g, amountAt (groupShifts u (bounds.get g)) i * x (.scale g) ≤ 0 := by
    refine Finset.sum_nonpos ?_
    intro g _
    have scaled := mul_nonneg ((bounds.get g).share_nonneg u i) (feasible.nonneg (.scale g))
    rw [group_shift]
    cases sense : (bounds.get g).sense with
    | upper =>
        simp only [Sense.direction]
        linarith
    | lower =>
        rw [share_of_uncalled u bounds .lower i unraised g sense]
        simp
  rw [decode_get u bounds penalty (allowed_of_feasible u bounds penalty feasible), held]
  linarith

theorem le_decode (feasible : (program u bounds penalty).Feasible x) (i : Fin n)
    (unlowered : movable .upper bounds i = false) : u.get i ≤ (decode u bounds x).get i := by
  have held := feasible.fixed_zero (.lower i) (by simp [program, unlowered])
  have raised := feasible.nonneg (.raise i)
  have groups : 0 ≤ ∑ g, amountAt (groupShifts u (bounds.get g)) i * x (.scale g) := by
    refine Finset.sum_nonneg ?_
    intro g _
    have scaled := mul_nonneg ((bounds.get g).share_nonneg u i) (feasible.nonneg (.scale g))
    rw [group_shift]
    cases sense : (bounds.get g).sense with
    | upper =>
        rw [share_of_uncalled u bounds .upper i unlowered g sense]
        simp
    | lower =>
        simp only [Sense.direction]
        linarith
  rw [decode_get u bounds penalty (allowed_of_feasible u bounds penalty feasible), held]
  linarith

theorem shift_cost_pos (sense : Sense) (i : Fin n) : 0 < shiftCost sense bounds i := by
  unfold shiftCost
  by_cases own : movable sense (bounds.filter (·.isSingle)) i = true
  · rw [if_pos own]
    simp only [ownShiftCost, Scalar.ratio]
    positivity
  · rw [if_neg own]
    simp only [memberShiftCost]
    positivity

theorem cost_pos (priced : 0 < penalty) (nonempty : ∀ b ∈ bounds, b.terms ≠ [])
    (v : Move n bounds.length) : 0 < (program u bounds penalty).cost v := by
  cases v with
  | raise i => exact shift_cost_pos bounds .lower i
  | lower i => exact shift_cost_pos bounds .upper i
  | scale g =>
      simp only [program, Scalar.total_eq_sum]
      exact (bounds.get g).basis_sum_pos u (nonempty _ (List.get_mem bounds g))
  | slack g => exact priced

theorem costs_nonneg (priced : 0 < penalty) (nonempty : ∀ b ∈ bounds, b.terms ≠ [])
    (feasible : (program u bounds penalty).Feasible x) :
    ∀ t ∈ (Move.all n bounds.length).map fun v => (program u bounds penalty).cost v * x v,
      0 ≤ t := by
  intro t member
  obtain ⟨v, -, rfl⟩ := List.mem_map.mp member
  exact mul_nonneg (cost_pos u bounds penalty priced nonempty v).le (feasible.nonneg v)

omit [IsStrictOrderedRing K] in
theorem objective_zero : (program u bounds penalty).objective (fun _ => 0) = 0 := by
  simp [LinearProgram.objective, LinearProgram.weigh]

section start

variable (met : ∀ b ∈ bounds, b.violation u = 0)

include met

theorem zero_feasible : (program u bounds penalty).Feasible fun _ => 0 where
  nonneg _ := le_refl 0
  fixed_zero _ _ := rfl
  rows_hold row member := by
    obtain ⟨c, -, rfl⟩ := List.mem_map.mp member
    have weight : (program u bounds penalty).weigh (effect u bounds c) (fun _ => 0) = 0 := by
      simp [LinearProgram.weigh]
    have start := (Bound.met_iff _ _).mp (met _ (List.get_mem bounds c))
    cases sense : (bounds.get c).sense with
    | upper =>
        rw [sense] at start
        simpa only [LinearProgram.rowHolds, weight, sub_nonneg] using start
    | lower =>
        rw [sense] at start
        simpa only [LinearProgram.rowHolds, weight, sub_nonpos] using start

-- Every move costs something, so to move nothing is optimal if nothing has to move, and nothing else is.
theorem zero_optimal (priced : 0 < penalty) (nonempty : ∀ b ∈ bounds, b.terms ≠ []) :
    (program u bounds penalty).Optimal fun _ => 0 where
  toFeasible := zero_feasible u bounds penalty met
  least z feasible := by
    rw [objective_zero, LinearProgram.objective, LinearProgram.weigh, Scalar.total_eq_sum]
    exact List.sum_nonneg (costs_nonneg u bounds penalty priced nonempty feasible)

theorem optimal_eq_zero (priced : 0 < penalty) (nonempty : ∀ b ∈ bounds, b.terms ≠ [])
    (optimal : (program u bounds penalty).Optimal x) (v : Move n bounds.length) : x v = 0 := by
  have nonneg := costs_nonneg u bounds penalty priced nonempty optimal.toFeasible
  have cheapest := optimal.least _ (zero_feasible u bounds penalty met)
  rw [objective_zero, LinearProgram.objective, LinearProgram.weigh, Scalar.total_eq_sum] at cheapest
  have free := List.all_zero_of_le_zero_le_of_sum_eq_zero nonneg
    (le_antisymm cheapest (List.sum_nonneg nonneg)) (List.mem_map_of_mem (Move.mem_all v))
  exact (mul_eq_zero.mp free).resolve_left (cost_pos u bounds penalty priced nonempty v).ne'

theorem decode_optimal (priced : 0 < penalty) (nonempty : ∀ b ∈ bounds, b.terms ≠ [])
    (optimal : (program u bounds penalty).Optimal x) : decode u bounds x = u := by
  have still := optimal_eq_zero u bounds penalty met priced nonempty optimal
  refine vector_ext_get fun i => ?_
  have decoded := decode_get u bounds penalty
    (allowed_of_feasible u bounds penalty optimal.toFeasible) i
  simp only [still, mul_zero, Finset.sum_const_zero, add_zero, sub_zero] at decoded
  exact decoded

end start

end ordered

end Deviation

end EconomicImpact
