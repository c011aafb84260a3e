import Mathlib
import EconomicImpact.Proofs.Feasibility.Attainable
import EconomicImpact.Proofs.Feasibility.Clipping

set_option autoImplicit false

namespace EconomicImpact

variable {K : Type} [Field K] [LinearOrder K] {n : Nat}

theorem amount_at_of_mem (terms : List (Fin n × K)) (distinct : (terms.map (·.1)).Nodup)
    (t : Fin n × K) (listed : t ∈ terms) : amountAt terms t.1 = t.2 := by
  induction terms with
  | nil => cases listed
  | cons first rest ih =>
      obtain ⟨fresh, restDistinct⟩ := List.nodup_cons.mp distinct
      rw [amount_at_cons]
      rcases List.mem_cons.mp listed with rfl | later
      · rw [if_pos rfl, amount_at_absent rest _ fresh, add_zero]
      · have apart : first.1 ≠ t.1 := fun same => fresh (List.mem_map.mpr ⟨t, later, same.symm⟩)
        rw [if_neg apart, zero_add, ih restDistinct later]

theorem Sense.direction_ne_zero (sense : Sense) :
    (sense.direction : K) ≠ 0 := by
  cases sense with
  | upper => exact neg_ne_zero.mpr one_ne_zero
  | lower => exact one_ne_zero

namespace Bound

variable (b : Bound K n) (y : Vector K n)

theorem share_covered (distinct : b.sectors.Nodup) (i : Fin n) (covered : i ∈ b.sectors) :
    b.share y i = if ∃ j ∈ b.sectors, 0 < y.get j then max (y.get i) 0 else 1 := by
  have beside (f : Fin n → K) : amountAt (b.sectors.zip (b.sectors.map f)) i = f i := by
    rw [← List.map_prod_left_eq_zip]
    refine amount_at_of_mem _ ?_ (i, f i) (List.mem_map_of_mem covered)
    simpa [Function.comp_def] using distinct
  unfold share basis
  by_cases positive : ∃ j ∈ b.sectors, 0 < y.get j
  · rw [if_pos positive, if_pos (by simpa using positive)]
    exact (beside _).trans (Scalar.larger_eq_max _ _)
  · rw [if_neg positive, if_neg (by simpa using positive), List.map_map]
    exact beside _

theorem sum_share : ∑ i, b.share y i = (b.basis y).sum := by
  have shares := sum_amount_at (b.sectors.zip (b.basis y)) fun _ => 1
  have listed : (b.sectors.zip (b.basis y)).map (·.2) = b.basis y :=
    List.map_snd_zip (b.basis_length y).le
  simp only [mul_one, listed] at shares
  exact shares

omit [Field K] [LinearOrder K] in
theorem not_single_of_several (several : 2 ≤ b.terms.length) : b.isSingle = false := by
  cases single : b.single? with
  | none => simp [isSingle, single]
  | some term =>
      rw [single_term b term.1 term.2 single] at several
      simp at several

end Bound

namespace Deviation

variable (u : Vector K n) (b : Bound K n) (penalty : K)

def lone : Fin [b].length := ⟨0, Nat.zero_lt_one⟩

omit [LinearOrder K] in
theorem sum_lone (f : Fin [b].length → K) : ∑ g, f g = f (lone b) := Fin.sum_univ_one f

omit [Field K] [LinearOrder K] in
theorem eq_lone (g : Fin [b].length) : g = lone b := Fin.ext (Nat.lt_one_iff.mp g.isLt)

omit [Field K] [LinearOrder K] in
theorem movable_lone (sense : Sense) (i : Fin n) :
    movable sense [b] i = (b.sense == sense && b.covers i) := by
  simp [movable]

def ownShift (x : Move n [b].length → K) (i : Fin n) : K :=
  match b.sense with
  | .upper => x (.lower i)
  | .lower => x (.raise i)

def progress (x : Move n [b].length → K) : K :=
  (∑ i, amountAt b.terms i * ownShift b x i) + b.weightedBasis u * x (.scale (lone b))

def shiftsAnd (own : Fin n → K) (scale : K) : Move n [b].length → K
  | .raise i => if b.sense = .lower then own i else 0
  | .lower i => if b.sense = .upper then own i else 0
  | .scale _ => scale
  | .slack _ => 0

@[simp] theorem own_shift_shifts_and (own : Fin n → K) (scale : K) :
    ownShift b (shiftsAnd b own scale) = own := by
  funext i
  cases sense : b.sense <;> simp [ownShift, shiftsAnd, sense]

@[simp] theorem shifts_and_scale (own : Fin n → K) (scale : K) (g : Fin [b].length) :
    shiftsAnd b own scale (.scale g) = scale := rfl

section allowed

variable {u b penalty} {x : Move n [b].length → K} (allowed : Allowed u [b] penalty x)

include allowed

theorem own_shift_nonneg (i : Fin n) : 0 ≤ ownShift b x i := by
  unfold ownShift
  cases b.sense <;> exact allowed.nonneg _

theorem own_shift_uncovered (i : Fin n) (uncovered : i ∉ b.sectors) : ownShift b x i = 0 := by
  have uncalled (sense : Sense) : movable sense [b] i = false := by
    rw [movable_lone, ← Bool.not_eq_true, Bool.and_eq_true, ← mem_sectors_iff]
    exact fun called => uncovered called.2
  unfold ownShift
  cases b.sense with
  | upper => exact allowed.fixed_zero _ (by simp [program, uncalled])
  | lower => exact allowed.fixed_zero _ (by simp [program, uncalled])

theorem lone_shifts (i : Fin n) :
    x (.raise i) - x (.lower i) = b.sense.direction * ownShift b x i ∧
      x (.raise i) + x (.lower i) = ownShift b x i := by
  cases sense : b.sense with
  | upper =>
      have raised := allowed.fixed_zero (.raise i) (by simp [program, movable_lone, sense])
      simp [ownShift, sense, raised, Sense.direction]
  | lower =>
      have lowered := allowed.fixed_zero (.lower i) (by simp [program, movable_lone, sense])
      simp [ownShift, sense, lowered, Sense.direction]

theorem lone_decode_get (i : Fin n) :
    (decode u [b] x).get i =
      u.get i + b.sense.direction * (ownShift b x i + b.share u i * x (.scale (lone b))) := by
  have group : amountAt (groupShifts u ([b].get (lone b))) i = b.sense.direction * b.share u i :=
    group_shift u b i
  rw [decode_get u [b] penalty allowed, sum_lone, group, add_sub_assoc, (lone_shifts allowed i).1]
  ring

theorem lone_lhs (distinct : b.sectors.Nodup) :
    b.lhs (decode u [b] x) = b.lhs u + b.sense.direction * progress u b x := by
  have moved := b.lhs_sub_lhs (decode u [b] x) u
  simp only [lone_decode_get allowed, add_sub_cancel_left] at moved
  rw [progress, b.weighted_basis_eq u distinct, Finset.sum_mul, ← Finset.sum_add_distrib,
    Finset.mul_sum, ← sub_eq_iff_eq_add', moved]
  refine Finset.sum_congr rfl fun i _ => ?_
  ring

theorem lone_objective (hard : b.isHard = true) (group : b.isSingle = false) :
    (program u [b] penalty).objective x =
      memberShiftCost * (∑ i, ownShift b x i) + (b.basis u).sum * x (.scale (lone b)) := by
  have raising (i : Fin n) : (program u [b] penalty).cost (.raise i) = memberShiftCost := by
    simp [program, shiftCost, movable, group]
  have lowering (i : Fin n) : (program u [b] penalty).cost (.lower i) = memberShiftCost := by
    simp [program, shiftCost, movable, group]
  have moving : (program u [b] penalty).cost (.scale (lone b)) = (b.basis u).sum :=
    Scalar.total_eq_sum _
  have unpaid : x (.slack (lone b)) = 0 := allowed.fixed_zero _ hard
  have weighed := weigh_moves (program u [b] penalty).cost x
  simp only [sum_lone, unpaid, raising, lowering, moving, mul_zero, add_zero, ← Finset.mul_sum,
    ← mul_add, ← Finset.sum_add_distrib, (lone_shifts allowed _).2] at weighed
  exact weighed

end allowed

section ordered

variable [IsStrictOrderedRing K] {u b penalty} {x : Move n [b].length → K}

theorem progress_nonneg (sound : b.Sound) (allowed : Allowed u [b] penalty x) :
    0 ≤ progress u b x := by
  refine add_nonneg (Finset.sum_nonneg fun i _ => mul_nonneg ?_ (own_shift_nonneg allowed i))
    (mul_nonneg (b.weighted_basis_pos u sound).le (allowed.nonneg _))
  exact amount_at_nonneg _ _ fun t listed => (sound.positive t listed).le

theorem lone_feasible_iff (sound : b.Sound) (hard : b.isHard = true) :
    (program u [b] penalty).Feasible x ↔
      Allowed u [b] penalty x ∧ b.violation u ≤ progress u b x := by
  rw [feasible_iff]
  refine and_congr_right fun allowed => ?_
  have unpaid : x (.slack (lone b)) = 0 := allowed.fixed_zero _ hard
  have lhs := lone_lhs allowed sound.distinct
  have only : (∀ c : Fin [b].length, ([b].get c).violation (decode u [b] x) ≤ x (.slack c)) ↔
      b.violation (decode u [b] x) ≤ 0 := by
    rw [← unpaid]
    exact Fin.forall_fin_one
  rw [only, b.violation_le_iff _ _ (le_refl 0),
    b.violation_le_iff _ _ (progress_nonneg sound allowed), lhs]
  cases b.sense with
  | upper =>
      simp only [Sense.direction]
      constructor <;> intro holds <;> linarith
  | lower =>
      simp only [Sense.direction]
      constructor <;> intro holds <;> linarith

omit [IsStrictOrderedRing K] in
theorem shifts_and_allowed {own : Fin n → K} {scale : K} (group : b.isSingle = false)
    (ownNonneg : ∀ i, 0 ≤ own i) (covered : ∀ i, i ∉ b.sectors → own i = 0)
    (scaleNonneg : 0 ≤ scale) : Allowed u [b] penalty (shiftsAnd b own scale) where
  nonneg v := by
    cases v with
    | raise i =>
        simp only [shiftsAnd]
        by_cases called : b.sense = .lower
        · rw [if_pos called]
          exact ownNonneg i
        · rw [if_neg called]
    | lower i =>
        simp only [shiftsAnd]
        by_cases called : b.sense = .upper
        · rw [if_pos called]
          exact ownNonneg i
        · rw [if_neg called]
    | scale g => exact scaleNonneg
    | slack g => exact le_refl 0
  fixed_zero v fixed := by
    have held (sense : Sense) (i : Fin n) (uncalled : movable sense [b] i = false) :
        (if b.sense = sense then own i else 0) = 0 := by
      by_cases same : b.sense = sense
      · rw [if_pos same]
        refine covered i ?_
        rw [mem_sectors_iff]
        simpa [movable_lone, same] using uncalled
      · rw [if_neg same]
    cases v with
    | raise i => exact held .lower i (by simpa [program] using fixed)
    | lower i => exact held .upper i (by simpa [program] using fixed)
    | scale g =>
        rw [eq_lone b g] at fixed
        exact absurd (group.symm.trans fixed) Bool.false_ne_true
    | slack g => rfl

omit [IsStrictOrderedRing K] in
-- What an assignment costs against a group move of the same progress.
theorem objective_against_group (hard : b.isHard = true) (group : b.isSingle = false)
    (allowed : Allowed u [b] penalty x) :
    b.weightedBasis u * (program u [b] penalty).objective x =
      (b.basis u).sum * progress u b x +
        ∑ i, (memberShiftCost * b.weightedBasis u - amountAt b.terms i * (b.basis u).sum) *
          ownShift b x i := by
  have shifts : ∑ i, (memberShiftCost * b.weightedBasis u -
        amountAt b.terms i * (b.basis u).sum) * ownShift b x i =
      memberShiftCost * b.weightedBasis u * (∑ i, ownShift b x i) -
        (b.basis u).sum * ∑ i, amountAt b.terms i * ownShift b x i := by
    rw [Finset.mul_sum, Finset.mul_sum, ← Finset.sum_sub_distrib]
    refine Finset.sum_congr rfl fun i _ => ?_
    ring
  rw [lone_objective allowed hard group, shifts, progress]
  ring

omit [IsStrictOrderedRing K] in
-- What an assignment costs against a shift of one weight of the same progress.
theorem objective_against_member (hard : b.isHard = true) (group : b.isSingle = false)
    (allowed : Allowed u [b] penalty x) (w : K) :
    w * (program u [b] penalty).objective x =
      memberShiftCost * progress u b x +
        memberShiftCost * (∑ i, (w - amountAt b.terms i) * ownShift b x i) +
        (w * (b.basis u).sum - memberShiftCost * b.weightedBasis u) * x (.scale (lone b)) := by
  have shifts : ∑ i, (w - amountAt b.terms i) * ownShift b x i =
      w * (∑ i, ownShift b x i) - ∑ i, amountAt b.terms i * ownShift b x i := by
    rw [Finset.mul_sum, ← Finset.sum_sub_distrib]
    refine Finset.sum_congr rfl fun i _ => ?_
    ring
  rw [lone_objective allowed hard group, shifts, progress]
  ring

-- A factor that is right for each term of the bound is right for each shift.
theorem scaled_shift_nonneg (sound : b.Sound) (allowed : Allowed u [b] penalty x)
    (factor : K → K) (right : ∀ t ∈ b.terms, 0 ≤ factor t.2) (i : Fin n) :
    0 ≤ factor (amountAt b.terms i) * ownShift b x i := by
  by_cases covered : i ∈ b.sectors
  · obtain ⟨t, listed, rfl⟩ := List.mem_map.mp covered
    rw [amount_at_of_mem b.terms sound.distinct t listed]
    exact mul_nonneg (right t listed) (own_shift_nonneg allowed t.1)
  · rw [own_shift_uncovered allowed i covered, mul_zero]

variable (u b) in
def groupMove : Move n [b].length → K :=
  shiftsAnd b (fun _ => 0) (b.violation u / b.weightedBasis u)

variable (u b) in
def memberMove (t : Fin n × K) : Move n [b].length → K :=
  shiftsAnd b (Pi.single t.1 (b.violation u / t.2)) 0

section group

variable (sound : b.Sound) (hard : b.isHard = true) (group : b.isSingle = false)

include sound hard group

theorem group_move_feasible : (program u [b] penalty).Feasible (groupMove u b) := by
  have weighted := b.weighted_basis_pos u sound
  rw [lone_feasible_iff sound hard]
  refine ⟨shifts_and_allowed group (fun _ => le_refl 0) (fun _ _ => rfl)
    (div_nonneg (b.violation_nonneg u) weighted.le), ?_⟩
  simp [progress, groupMove, mul_div_cancel₀ _ weighted.ne']

theorem group_move_objective :
    (program u [b] penalty).objective (groupMove u b) =
      (b.basis u).sum * (b.violation u / b.weightedBasis u) := by
  have allowed := allowed_of_feasible u [b] penalty (group_move_feasible sound hard group)
  rw [lone_objective allowed hard group]
  simp [groupMove]

theorem member_move_feasible (t : Fin n × K) (listed : t ∈ b.terms) :
    (program u [b] penalty).Feasible (memberMove u b t) := by
  have weight := sound.positive t listed
  have shift : 0 ≤ b.violation u / t.2 := div_nonneg (b.violation_nonneg u) weight.le
  rw [lone_feasible_iff sound hard]
  refine ⟨shifts_and_allowed group ?_ ?_ (le_refl 0), ?_⟩
  · intro i
    by_cases same : i = t.1
    · rw [same, Pi.single_eq_same]
      exact shift
    · rw [Pi.single_eq_of_ne same]
  · intro i uncovered
    refine Pi.single_eq_of_ne (fun same => uncovered ?_) _
    rw [same]
    exact List.mem_map_of_mem listed
  · simp [progress, memberMove, Pi.single_apply,
      amount_at_of_mem b.terms sound.distinct t listed, mul_div_cancel₀ _ weight.ne']

theorem member_move_objective (t : Fin n × K) (listed : t ∈ b.terms) :
    (program u [b] penalty).objective (memberMove u b t) =
      memberShiftCost * (b.violation u / t.2) := by
  have allowed := allowed_of_feasible u [b] penalty (member_move_feasible sound hard group t listed)
  rw [lone_objective allowed hard group]
  simp [memberMove]

theorem group_move_optimal
    (cheap : ∀ t ∈ b.terms, t.2 * (b.basis u).sum ≤ memberShiftCost * b.weightedBasis u) :
    (program u [b] penalty).Optimal (groupMove u b) where
  toFeasible := group_move_feasible sound hard group
  least z feasible := by
    obtain ⟨allowed, reached⟩ := (lone_feasible_iff sound hard).mp feasible
    have weighted := b.weighted_basis_pos u sound
    have basis := b.basis_sum_pos u sound.nonempty
    have against := objective_against_group hard group allowed
    have excess := Finset.sum_nonneg fun i (_ : i ∈ Finset.univ) =>
      scaled_shift_nonneg sound allowed
        (fun a => memberShiftCost * b.weightedBasis u - a * (b.basis u).sum)
        (fun t listed => sub_nonneg.mpr (cheap t listed)) i
    have paid : (b.basis u).sum * b.violation u ≤
        b.weightedBasis u * (program u [b] penalty).objective z := by
      have least := mul_le_mul_of_nonneg_left reached basis.le
      linarith
    rw [group_move_objective sound hard group, ← mul_div_assoc, div_le_iff₀' weighted]
    exact paid

-- A member of the greatest weight is the cheapest one to shift by itself.
theorem heaviest_move_optimal (t : Fin n × K) (listed : t ∈ b.terms)
    (heaviest : ∀ r ∈ b.terms, r.2 ≤ t.2)
    (dear : memberShiftCost * b.weightedBasis u ≤ t.2 * (b.basis u).sum) :
    (program u [b] penalty).Optimal (memberMove u b t) where
  toFeasible := member_move_feasible sound hard group t listed
  least z feasible := by
    obtain ⟨allowed, reached⟩ := (lone_feasible_iff sound hard).mp feasible
    have weight := sound.positive t listed
    have shiftCost : (0 : K) ≤ memberShiftCost := Nat.cast_nonneg 10
    have against := objective_against_member hard group allowed t.2
    have lighter := Finset.sum_nonneg fun i (_ : i ∈ Finset.univ) =>
      scaled_shift_nonneg sound allowed (fun a => t.2 - a)
        (fun r other => sub_nonneg.mpr (heaviest r other)) i
    have paid : memberShiftCost * b.violation u ≤
        t.2 * (program u [b] penalty).objective z := by
      have least := mul_le_mul_of_nonneg_left reached shiftCost
      have shifts := mul_nonneg shiftCost lighter
      have scaled := mul_nonneg (sub_nonneg.mpr dear) (allowed.nonneg (.scale (lone b)))
      linarith
    rw [member_move_objective sound hard group t listed, ← mul_div_assoc, div_le_iff₀' weight]
    exact paid

theorem own_shift_of_optimal
    (cheap : b.violation u = 0 ∨
      ∀ t ∈ b.terms, t.2 * (b.basis u).sum < memberShiftCost * b.weightedBasis u)
    (optimal : (program u [b] penalty).Optimal x) (i : Fin n) : ownShift b x i = 0 := by
  obtain ⟨allowed, reached⟩ := (lone_feasible_iff sound hard).mp optimal.toFeasible
  have least := optimal.least _ (group_move_feasible sound hard group)
  rw [group_move_objective sound hard group] at least
  have basis := b.basis_sum_pos u sound.nonempty
  rcases cheap with met | cheap
  · have shiftCost : (0 : K) < memberShiftCost := Nat.cast_pos.mpr (by decide)
    have own (i : Fin n) (_ : i ∈ Finset.univ) := own_shift_nonneg allowed i
    have shifts := mul_nonneg shiftCost.le (Finset.sum_nonneg own)
    have scaled := mul_nonneg basis.le (allowed.nonneg (.scale (lone b)))
    rw [lone_objective allowed hard group, met, zero_div, mul_zero] at least
    have free : memberShiftCost * (∑ i, ownShift b x i) = 0 := by linarith
    have none := (mul_eq_zero.mp free).resolve_left shiftCost.ne'
    exact (Finset.sum_eq_zero_iff_of_nonneg own).mp none i (Finset.mem_univ i)
  · have weighted := b.weighted_basis_pos u sound
    have against := objective_against_group hard group allowed
    have excess (i : Fin n) (_ : i ∈ Finset.univ) := scaled_shift_nonneg sound allowed
      (fun a => memberShiftCost * b.weightedBasis u - a * (b.basis u).sum)
      (fun t listed => sub_nonneg.mpr (cheap t listed).le) i
    rw [← mul_div_assoc, le_div_iff₀' weighted] at least
    have paid := mul_le_mul_of_nonneg_left reached basis.le
    have none : ∑ i, (memberShiftCost * b.weightedBasis u -
        amountAt b.terms i * (b.basis u).sum) * ownShift b x i = 0 :=
      le_antisymm (by linarith) (Finset.sum_nonneg excess)
    have free := (Finset.sum_eq_zero_iff_of_nonneg excess).mp none i (Finset.mem_univ i)
    by_cases covered : i ∈ b.sectors
    · obtain ⟨t, listed, rfl⟩ := List.mem_map.mp covered
      rw [amount_at_of_mem b.terms sound.distinct t listed] at free
      exact (mul_eq_zero.mp free).resolve_left (sub_pos.mpr (cheap t listed)).ne'
    · exact own_shift_uncovered allowed i covered

theorem scale_of_optimal
    (cheap : b.violation u = 0 ∨
      ∀ t ∈ b.terms, t.2 * (b.basis u).sum < memberShiftCost * b.weightedBasis u)
    (optimal : (program u [b] penalty).Optimal x) :
    x (.scale (lone b)) = b.violation u / b.weightedBasis u := by
  have still := own_shift_of_optimal sound hard group cheap optimal
  obtain ⟨allowed, reached⟩ := (lone_feasible_iff sound hard).mp optimal.toFeasible
  have least := optimal.least _ (group_move_feasible sound hard group)
  rw [group_move_objective sound hard group, lone_objective allowed hard group] at least
  simp only [progress, still, mul_zero, Finset.sum_const_zero, zero_add] at least reached
  refine le_antisymm ?_ ?_
  · exact le_of_mul_le_mul_left least (b.basis_sum_pos u sound.nonempty)
  · exact (div_le_iff₀' (b.weighted_basis_pos u sound)).mpr reached

end group

end ordered

section proportional

variable [IsStrictOrderedRing K]

theorem limit_sub_lhs (violated : b.violation u ≠ 0) :
    b.limit - b.lhs u = b.sense.direction * b.violation u := by
  have met := b.met_iff u
  cases sense : b.sense with
  | upper =>
      rw [sense] at met
      have beyond := not_le.mp fun within => violated (met.mpr within)
      simp [Bound.violation, sense, Sense.direction, beyond.le]
  | lower =>
      rw [sense] at met
      have short := not_le.mp fun within => violated (met.mpr within)
      simp [Bound.violation, sense, Sense.direction, short.le]

omit [IsStrictOrderedRing K] in
theorem clip_lone (group : b.isSingle = false) : clip u [b] = Clipping.apply u b := by
  cases hard : b.isHard <;> simp [clip, Clipping.passes, hard, group]

theorem clip_lone_get (sound : b.Sound) (group : b.isSingle = false) (i : Fin n) :
    (clip u [b]).get i = u.get i +
      b.sense.direction * (b.share u i * (b.violation u / b.weightedBasis u)) := by
  rw [clip_lone u b group]
  by_cases met : b.violation u = 0
  · rw [Clipping.apply_of_met b u met, met, zero_div, mul_zero, mul_zero, add_zero]
  · rw [Clipping.apply_get b u sound met, limit_sub_lhs u b met]
    ring

-- A member that takes the whole correction alone is not the group in proportion.
theorem decode_member_move_ne_clip (sound : b.Sound) (hard : b.isHard = true)
    (group : b.isSingle = false) (t : Fin n × K) (listed : t ∈ b.terms)
    (violated : b.violation u ≠ 0)
    (dear : memberShiftCost * b.weightedBasis u ≤ t.2 * (b.basis u).sum) :
    decode u [b] (memberMove u b t) ≠ clip u [b] := by
  intro same
  have weight := sound.positive t listed
  have weighted := b.weighted_basis_pos u sound
  have feasible : (program u [b] 0).Feasible (memberMove u b t) :=
    member_move_feasible sound hard group t listed
  have allowed := allowed_of_feasible u [b] 0 feasible
  have parts (i : Fin n) : (Pi.single t.1 (b.violation u / t.2) : Fin n → K) i =
      b.share u i * (b.violation u / b.weightedBasis u) := by
    have moved := lone_decode_get allowed i
    rw [same, clip_lone_get u b sound group, add_right_inj] at moved
    have cancelled := mul_left_cancel₀ b.sense.direction_ne_zero moved
    simpa [memberMove] using cancelled.symm
  have whole : b.violation u / t.2 = (b.basis u).sum * (b.violation u / b.weightedBasis u) := by
    rw [← b.sum_share, Finset.sum_mul, ← Finset.sum_congr rfl fun i _ => parts i]
    simp [Pi.single_apply]
  rw [← mul_div_assoc, div_eq_div_iff weight.ne' weighted.ne'] at whole
  have alone : t.2 * (b.basis u).sum = b.weightedBasis u :=
    mul_left_cancel₀ violated (by linarith)
  rw [alone] at dear
  simp only [memberShiftCost, Nat.cast_ofNat] at dear
  linarith

theorem group_keeps_composition_iff (sound : b.Sound) (hard : b.isHard = true)
    (several : 2 ≤ b.terms.length) :
    (∃ x, (program u [b] penalty).Optimal x) ∧
      (∀ i, (clip u [b]).get i =
        if i ∈ b.sectors then
          u.get i + b.sense.direction *
            ((if ∃ j ∈ b.sectors, 0 < u.get j then max (u.get i) 0 else 1) *
              (b.violation u / b.weightedBasis u))
        else u.get i) ∧
      (b.violation u ≠ 0 → b.lhs (clip u [b]) = b.limit) ∧
      ((∀ x, (program u [b] penalty).Optimal x → decode u [b] x = clip u [b]) ↔
        b.violation u = 0 ∨
          ∀ t ∈ b.terms, t.2 * (b.basis u).sum < memberShiftCost * b.weightedBasis u) := by
  have group := b.not_single_of_several several
  obtain ⟨t, listed, heaviest⟩ : ∃ t ∈ b.terms, ∀ r ∈ b.terms, r.2 ≤ t.2 := by
    classical
    obtain ⟨t, listed, heaviest⟩ := b.terms.toFinset.exists_max_image (·.2)
      (List.toFinset_nonempty_iff _ |>.mpr sound.nonempty)
    exact ⟨t, List.mem_toFinset.mp listed, fun r other => heaviest r (List.mem_toFinset.mpr other)⟩
  refine ⟨?_, ?_, ?_, ?_, ?_⟩
  · by_cases dear : memberShiftCost * b.weightedBasis u ≤ t.2 * (b.basis u).sum
    · exact ⟨_, heaviest_move_optimal sound hard group t listed heaviest dear⟩
    · refine ⟨_, group_move_optimal sound hard group fun r other => ?_⟩
      have basis := (b.basis_sum_pos u sound.nonempty).le
      exact (mul_le_mul_of_nonneg_right (heaviest r other) basis).trans (not_le.mp dear).le
  · intro i
    rw [clip_lone_get u b sound group]
    by_cases covered : i ∈ b.sectors
    · rw [if_pos covered, b.share_covered u sound.distinct i covered]
    · rw [if_neg covered, b.share_absent u i covered, zero_mul, mul_zero, add_zero]
  · intro violated
    rw [clip_lone u b group, Clipping.lhs_apply b u sound violated]
  · intro kept
    by_contra dear
    push Not at dear
    obtain ⟨violated, r, other, dear⟩ := dear
    have basis := (b.basis_sum_pos u sound.nonempty).le
    have dearest := dear.trans (mul_le_mul_of_nonneg_right (heaviest r other) basis)
    exact decode_member_move_ne_clip u b sound hard group t listed violated dearest
      (kept _ (heaviest_move_optimal sound hard group t listed heaviest dearest))
  · intro cheap x optimal
    have allowed := allowed_of_feasible u [b] penalty optimal.toFeasible
    refine vector_ext_get fun i => ?_
    rw [lone_decode_get allowed, clip_lone_get u b sound group,
      own_shift_of_optimal sound hard group cheap optimal,
      scale_of_optimal sound hard group cheap optimal, zero_add]

end proportional

def mildCap : Bound ℚ 2 := .standing .hard .upper [(0, 2), (1, 1)] 80

theorem mild_cap_keeps_composition :
    mildCap.Sound ∧ (∃ x, (program #v[60, 40] [mildCap] 1000).Optimal x) ∧
      ∀ x, (program #v[60, 40] [mildCap] 1000).Optimal x →
        decode #v[60, 40] [mildCap] x = #v[30, 20] := by
  have sound : mildCap.Sound := ⟨by decide, by decide +kernel, by decide⟩
  obtain ⟨attained, -, -, kept⟩ :=
    group_keeps_composition_iff #v[60, 40] mildCap 1000 sound rfl (by decide)
  have light : ∀ t ∈ mildCap.terms, t.2 * (mildCap.basis #v[60, 40]).sum <
      memberShiftCost * mildCap.weightedBasis #v[60, 40] := by decide +kernel
  have clipped : clip #v[60, 40] [mildCap] = #v[30, 20] := by decide +kernel
  refine ⟨sound, attained, fun x optimal => ?_⟩
  rw [kept.mpr (.inr light) x optimal, clipped]

def steepCap : Bound ℚ 2 := .standing .hard .upper [(0, 100), (1, 1)] 150

theorem steep_cap_breaks_composition :
    steepCap.Sound ∧ steepCap.isHard = true ∧ 2 ≤ steepCap.terms.length ∧
      clip #v[1, 100] [steepCap] = #v[3 / 4, 75] ∧
      ∃ x, (program #v[1, 100] [steepCap] 1000).Optimal x ∧
        decode #v[1, 100] [steepCap] x = #v[1 / 2, 100] := by
  have sound : steepCap.Sound := ⟨by decide, by decide +kernel, by decide⟩
  have dear : memberShiftCost * steepCap.weightedBasis #v[1, 100] ≤
      100 * (steepCap.basis #v[1, 100]).sum := by decide +kernel
  refine ⟨sound, rfl, by decide, by decide +kernel, memberMove #v[1, 100] steepCap (0, 100), ?_, ?_⟩
  · exact heaviest_move_optimal sound rfl rfl (0, 100) (by decide +kernel) (by decide +kernel) dear
  · decide +kernel

end Deviation

end EconomicImpact
