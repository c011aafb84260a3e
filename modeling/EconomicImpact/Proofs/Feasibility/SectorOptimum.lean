import Mathlib
import EconomicImpact.Proofs.Feasibility.Attainable
import EconomicImpact.Proofs.Feasibility.SectorClip

set_option autoImplicit false

namespace EconomicImpact

open Deviation

theorem abs_sub_of_between {K : Type} [Field K] [LinearOrder K] [IsStrictOrderedRing K]
    {start mid stop : K} (between : mid ∈ Set.uIcc start stop) :
    |stop - start| = |mid - start| + |stop - mid| := by
  rcases Set.mem_uIcc.mp between with ⟨first, second⟩ | ⟨second, first⟩
  · rw [abs_of_nonneg (by linarith), abs_of_nonneg (by linarith), abs_of_nonneg (by linarith)]
    ring
  · rw [abs_of_nonpos (by linarith), abs_of_nonpos (by linarith), abs_of_nonpos (by linarith)]
    ring

variable {K : Type} [Field K] [LinearOrder K] {n : Nat}

structure SectorBounds (penalty : K) (bounds : List (Bound K n)) : Prop where
  single : ∀ b ∈ bounds, b.isSingle = true
  positive : ∀ b ∈ bounds, ∀ t ∈ b.terms, 0 < t.2
  hardOrdered : ∀ i, OrderedLimits (limitsOn (bounds.filter (·.isHard)) i)
  softOrdered : ∀ i, OrderedLimits (limitsOn (bounds.filter (!·.isHard)) i)
  dear : ∀ b ∈ bounds, b.isHard = false → ∀ t ∈ b.terms, ownShiftCost < penalty * t.2

def sectorCost (u : Vector K n) (bounds : List (Bound K n)) (penalty : K) (y : Vector K n)
    (i : Fin n) : K :=
  ownShiftCost * |y.get i - u.get i| +
    ((bounds.filter (·.covers i)).map fun b => penalty * b.violation y).sum

omit [Field K] [LinearOrder K] in
theorem covers_single_iff (b : Bound K n) (j : Fin n) (w : K) (single : b.single? = some (j, w))
    (i : Fin n) : b.covers i = true ↔ j = i := by
  simp [Bound.covers, Bound.sectors, single_term b j w single, eq_comm]

theorem sum_by_sector (bounds : List (Bound K n)) (single : ∀ b ∈ bounds, b.isSingle = true)
    (f : Bound K n → K) :
    ∑ i, ((bounds.filter (·.covers i)).map f).sum = (bounds.map f).sum := by
  induction bounds with
  | nil => simp
  | cons b rest ih =>
      obtain ⟨bSingle, restSingle⟩ := List.forall_mem_cons.mp single
      obtain ⟨⟨j, w⟩, term⟩ := Option.isSome_iff_exists.mp bSingle
      have first (i : Fin n) : (((b :: rest).filter (·.covers i)).map f).sum =
          (if j = i then f b else 0) + ((rest.filter (·.covers i)).map f).sum := by
        by_cases same : j = i
        · rw [if_pos same, List.filter_cons, if_pos ((covers_single_iff b j w term i).mpr same),
            List.map_cons, List.sum_cons]
        · rw [if_neg same, zero_add, List.filter_cons,
            if_neg (mt (covers_single_iff b j w term i).mp same)]
      simp only [first, Finset.sum_add_distrib, ih restSingle, List.map_cons, List.sum_cons]
      rw [Finset.sum_ite_eq, if_pos (Finset.mem_univ j)]

theorem sum_sector_cost (u : Vector K n) (bounds : List (Bound K n)) (penalty : K)
    (y : Vector K n) (single : ∀ b ∈ bounds, b.isSingle = true) :
    ∑ i, sectorCost u bounds penalty y i =
      ownShiftCost * (∑ i, |y.get i - u.get i|) +
        ∑ c : Fin bounds.length, penalty * (bounds.get c).violation y := by
  have listed : ∑ c : Fin bounds.length, penalty * (bounds.get c).violation y =
      (bounds.map fun b => penalty * b.violation y).sum :=
    Fin.sum_univ_fun_getElem bounds fun b => penalty * b.violation y
  unfold sectorCost
  rw [Finset.sum_add_distrib, sum_by_sector bounds single, listed, Finset.mul_sum]

section program

variable {u : Vector K n} {bounds : List (Bound K n)} {penalty : K}
  {x : Move n bounds.length → K}

theorem own_shifts_objective (single : ∀ b ∈ bounds, b.isSingle = true)
    (allowed : Allowed u bounds penalty x) :
    (program u bounds penalty).objective x =
      ownShiftCost * (∑ i, (x (.raise i) + x (.lower i))) + ∑ c, penalty * x (.slack c) := by
  have alone : bounds.filter (·.isSingle) = bounds := List.filter_eq_self.mpr single
  have shift (sense : Sense) (i : Fin n) (a : K)
      (held : movable sense bounds i = false → a = 0) :
      shiftCost sense bounds i * a = ownShiftCost * a := by
    rw [shiftCost, alone]
    cases called : movable sense bounds i with
    | true => rw [if_pos rfl]
    | false => rw [held called, mul_zero, mul_zero]
  have raising (i : Fin n) : (program u bounds penalty).cost (.raise i) * x (.raise i) =
      ownShiftCost * x (.raise i) :=
    shift .lower i _ fun uncalled => allowed.fixed_zero (.raise i) (by simp [program, uncalled])
  have lowering (i : Fin n) : (program u bounds penalty).cost (.lower i) * x (.lower i) =
      ownShiftCost * x (.lower i) :=
    shift .upper i _ fun uncalled => allowed.fixed_zero (.lower i) (by simp [program, uncalled])
  have still (g : Fin bounds.length) : x (.scale g) = 0 :=
    allowed.fixed_zero (.scale g) (single _ (List.get_mem bounds g))
  have weighed := weigh_moves (program u bounds penalty).cost x
  simp only [raising, lowering, still, mul_zero, Finset.sum_const_zero, add_zero,
    ← Finset.sum_add_distrib, ← mul_add] at weighed
  rw [Finset.mul_sum]
  exact weighed

end program

variable [IsStrictOrderedRing K]

theorem own_shift_cost_pos : (0 : K) < ownShiftCost := by
  simp only [ownShiftCost, Scalar.ratio]
  positivity

theorem sum_add_le_sum {γ : Type} (items : List γ) (f g : γ → K) (le : ∀ a ∈ items, f a ≤ g a)
    (a : γ) (listed : a ∈ items) :
    (items.map f).sum + (g a - f a) ≤ (items.map g).sum := by
  have surplus : ∀ d ∈ items.map fun a => g a - f a, 0 ≤ d := by
    intro d member
    obtain ⟨b, inside, rfl⟩ := List.mem_map.mp member
    exact sub_nonneg.mpr (le b inside)
  have single := List.single_le_sum surplus _ (List.mem_map_of_mem listed)
  have split : (items.map g).sum = (items.map f).sum + (items.map fun a => g a - f a).sum := by
    rw [← List.sum_map_add]
    simp only [add_sub_cancel]
  rw [split]
  exact add_le_add_right single _

namespace SectorBounds

variable {u : Vector K n} {bounds : List (Bound K n)} {penalty : K}
  (sectorBounds : SectorBounds penalty bounds)

include sectorBounds

omit [IsStrictOrderedRing K] in
theorem term (b : Bound K n) (listed : b ∈ bounds) :
    ∃ j w, b.single? = some (j, w) ∧ b.terms = [(j, w)] ∧ 0 < w := by
  obtain ⟨⟨j, w⟩, single⟩ := Option.isSome_iff_exists.mp (sectorBounds.single b listed)
  have terms := single_term b j w single
  exact ⟨j, w, single, terms, sectorBounds.positive b listed (j, w) (by simp [terms])⟩

omit [IsStrictOrderedRing K] in
theorem sound (b : Bound K n) (listed : b ∈ bounds) : b.Sound := by
  obtain ⟨j, w, -, terms, -⟩ := sectorBounds.term b listed
  exact ⟨by simp [terms], sectorBounds.positive b listed, by simp [Bound.sectors, terms]⟩

theorem penalty_pos (b : Bound K n) (listed : b ∈ bounds) (soft : b.isHard = false) :
    0 < penalty := by
  obtain ⟨j, w, -, terms, weight⟩ := sectorBounds.term b listed
  have dear := sectorBounds.dear b listed soft (j, w) (by simp [terms])
  exact pos_of_mul_pos_left (own_shift_cost_pos.trans dear) weight.le

omit [IsStrictOrderedRing K] in
theorem on_sectors (kept : Bound K n → Bool) : Clipping.OnSectors (bounds.filter kept) := by
  intro b inside
  obtain ⟨j, w, single, -, weight⟩ := sectorBounds.term b (List.mem_filter.mp inside).1
  exact ⟨j, w, single, weight⟩

theorem softened_get (i : Fin n) :
    (softened u bounds).get i =
      clampBetween (limitsOn (bounds.filter (!·.isHard)) i) (u.get i) :=
  Clipping.fold_get _ (sectorBounds.on_sectors _) i (sectorBounds.softOrdered i) u

theorem clip_get (i : Fin n) :
    (clip u bounds).get i =
      clampBetween (limitsOn (bounds.filter (·.isHard)) i) ((softened u bounds).get i) := by
  rw [clip_of_single u bounds sectorBounds.single]
  exact Clipping.fold_get _ (sectorBounds.on_sectors _) i (sectorBounds.hardOrdered i) _

theorem clip_meets_hard : MeetsHard bounds (clip u bounds) := by
  intro b member hard
  rw [clip_of_single u bounds sectorBounds.single]
  exact Clipping.fold_meets _ (sectorBounds.on_sectors _) sectorBounds.hardOrdered _ b
    (List.mem_filter.mpr ⟨member, hard⟩)

theorem softened_meets_soft (b : Bound K n) (member : b ∈ bounds) (soft : b.isHard = false) :
    b.violation (softened u bounds) = 0 :=
  Clipping.fold_meets _ (sectorBounds.on_sectors _) sectorBounds.softOrdered u b
    (List.mem_filter.mpr ⟨member, by simp [soft]⟩)

section minimum

variable (z : Vector K n) (met : MeetsHard bounds z)

include met

-- The hard bounds move a sector towards the value that any vector meeting them has there.
theorem clip_between (i : Fin n) :
    (clip u bounds).get i ∈ Set.uIcc ((softened u bounds).get i) (z.get i) := by
  rw [sectorBounds.clip_get]
  refine clamp_between_mem_uIcc (sectorBounds.hardOrdered i) _ _ fun sense limit listed => ?_
  obtain ⟨b, inside, rfl, w, single, rfl⟩ := (mem_limits_on_iff _ _ _ _).mp listed
  obtain ⟨member, hard⟩ := List.mem_filter.mp inside
  exact (b.single_met_iff single ((sectorBounds.sound b member).weight_pos single)).mp
    (met b member hard)

-- On the way there it misses no soft bound by more than that vector.
theorem violation_clip_le (b : Bound K n) (member : b ∈ bounds) :
    b.violation (clip u bounds) ≤ b.violation z := by
  cases hard : b.isHard with
  | true =>
      rw [sectorBounds.clip_meets_hard b member hard]
      exact b.violation_nonneg z
  | false =>
      obtain ⟨j, w, single, terms, weight⟩ := sectorBounds.term b member
      have start := sectorBounds.softened_meets_soft (u := u) b member hard
      have between := sectorBounds.clip_between (u := u) z met j
      rw [b.single_met_iff single weight] at start
      by_cases reached : b.sense.Within (b.limit / w) (z.get j)
      · rw [(b.single_met_iff single weight).mpr (start.between reached between)]
        exact b.violation_nonneg z
      · refine b.violation_le_of_moved (sectorBounds.positive b member) fun i covered => ?_
        obtain rfl : i = j := by simpa [Bound.sectors, terms] using covered
        exact (Sense.between_of_not_within (fun further => reached (start.trans further))
          between).1

theorem sector_cost_lt (i : Fin n) (apart : z.get i ≠ (clip u bounds).get i) :
    sectorCost u bounds penalty (clip u bounds) i < sectorCost u bounds penalty z i := by
  have between := sectorBounds.clip_between (u := u) z met i
  have distance : 0 < |z.get i - (clip u bounds).get i| := abs_pos.mpr (sub_ne_zero.mpr apart)
  have shift := own_shift_cost_pos (K := K)
  have missed : ∀ b ∈ bounds.filter (·.covers i),
      penalty * b.violation (clip u bounds) ≤ penalty * b.violation z := by
    intro b inside
    obtain ⟨member, -⟩ := List.mem_filter.mp inside
    cases hard : b.isHard with
    | true => rw [sectorBounds.clip_meets_hard b member hard, met b member hard]
    | false =>
        exact mul_le_mul_of_nonneg_left (sectorBounds.violation_clip_le z met b member)
          (sectorBounds.penalty_pos b member hard).le
  unfold sectorCost
  by_cases toward : (softened u bounds).get i ∈ Set.uIcc (u.get i) (z.get i)
  · -- The vector went the same way, only further.
    have longer := abs_sub_of_between (Set.uIcc_subset_uIcc_right toward between)
    have total := List.sum_le_sum missed
    have dearer := mul_pos shift distance
    rw [longer, mul_add]
    linarith
  · -- It stopped short of a soft bound that the sector was moved to.
    have settled := sectorBounds.softened_get (u := u) i
    rcases clamp_between_cases (sectorBounds.softOrdered i) (u.get i) with
      same | ⟨sense, listed, moved⟩
    · rw [settled, same] at toward
      exact absurd Set.left_mem_uIcc toward
    · rw [← settled] at listed moved
      obtain ⟨b, inside, rfl, w, single, limit⟩ := (mem_limits_on_iff _ _ _ _).mp listed
      obtain ⟨member, soft⟩ := List.mem_filter.mp inside
      have isSoft : b.isHard = false := by simpa using soft
      have weight := (sectorBounds.sound b member).weight_pos single
      have short : ¬b.sense.Within ((softened u bounds).get i) (z.get i) := fun within =>
        toward (Sense.mem_uIcc_of_not_within moved within)
      have price : ownShiftCost < penalty * w :=
        sectorBounds.dear b member isSoft (i, w) (by simp [single_term b i w single])
      have beyondClip := (Sense.between_of_not_within short between).2
      have beyond := (Sense.between_of_not_within short Set.right_mem_uIcc).2
      rw [limit] at beyond beyondClip
      have extra : penalty * b.violation z - penalty * b.violation (clip u bounds) =
          penalty * w * |z.get i - (clip u bounds).get i| := by
        have path := abs_sub_of_between between
        rw [b.single_violation single weight beyond, b.single_violation single weight beyondClip,
          ← limit, path]
        ring
      have covers : b ∈ bounds.filter (·.covers i) :=
        List.mem_filter.mpr ⟨member, (covers_single_iff b i w single i).mpr rfl⟩
      have total := sum_add_le_sum _ _ _ missed b covers
      have nearer : |(clip u bounds).get i - u.get i| ≤
          |z.get i - u.get i| + |z.get i - (clip u bounds).get i| := by
        rw [add_comm, abs_sub_comm (z.get i)]
        exact abs_sub_le _ _ _
      have saved := mul_le_mul_of_nonneg_left nearer shift.le
      have dearer := mul_lt_mul_of_pos_right price distance
      rw [extra] at total
      rw [mul_add] at saved
      linarith

theorem sector_cost_clip_le (i : Fin n) :
    sectorCost u bounds penalty (clip u bounds) i ≤ sectorCost u bounds penalty z i := by
  by_cases same : z.get i = (clip u bounds).get i
  · refine le_of_eq ?_
    unfold sectorCost
    rw [same]
    congr 2
    refine List.map_congr_left fun b inside => ?_
    obtain ⟨member, covers⟩ := List.mem_filter.mp inside
    obtain ⟨j, w, single, terms, -⟩ := sectorBounds.term b member
    refine congrArg (penalty * ·) (b.violation_congr fun k covered => ?_)
    rw [covers_single_iff b j w single] at covers
    obtain rfl : k = j := by simpa [Bound.sectors, terms] using covered
    rw [covers, same]
  · exact (sectorBounds.sector_cost_lt z met i same).le

end minimum

section program

variable {x : Move n bounds.length → K}

theorem sector_costs_le_objective (feasible : (program u bounds penalty).Feasible x) :
    ∑ i, sectorCost u bounds penalty (decode u bounds x) i ≤
      (program u bounds penalty).objective x := by
  have allowed := allowed_of_feasible u bounds penalty feasible
  rw [sum_sector_cost u bounds penalty _ sectorBounds.single,
    own_shifts_objective sectorBounds.single allowed]
  refine add_le_add (mul_le_mul_of_nonneg_left (Finset.sum_le_sum fun i _ => ?_)
    own_shift_cost_pos.le) (Finset.sum_le_sum fun c _ => ?_)
  · have still (g : Fin bounds.length) : x (.scale g) = 0 :=
      allowed.fixed_zero (.scale g) (sectorBounds.single _ (List.get_mem bounds g))
    have raised := allowed.nonneg (.raise i)
    have lowered := allowed.nonneg (.lower i)
    rw [decode_get u bounds penalty allowed]
    simp only [still, mul_zero, Finset.sum_const_zero, add_zero]
    exact abs_le.mpr ⟨by linarith, by linarith⟩
  · have member := List.get_mem bounds c
    cases hard : (bounds.get c).isHard with
    | true =>
        have unpaid : x (.slack c) = 0 := allowed.fixed_zero (.slack c) hard
        rw [hard_bound_met u bounds penalty feasible _ member hard, unpaid]
    | false =>
        exact mul_le_mul_of_nonneg_left (violation_le_slack u bounds penalty feasible c)
          (sectorBounds.penalty_pos _ member hard).le

theorem own_shifts_cost (y : Vector K n) (permitted : Permitted u bounds y)
    (met : MeetsHard bounds y) :
    (program u bounds penalty).objective (ownShifts u bounds y) =
      ∑ i, sectorCost u bounds penalty y i := by
  rw [sum_sector_cost u bounds penalty _ sectorBounds.single,
    own_shifts_objective sectorBounds.single (own_shifts_allowed u bounds penalty permitted)]
  congr 1
  · congr 1
    refine Finset.sum_congr rfl fun i _ => ?_
    have split := max_zero_add_max_neg_zero_eq_abs_self (y.get i - u.get i)
    rw [neg_sub] at split
    exact split
  · refine Finset.sum_congr rfl fun c _ => ?_
    simp only [ownShifts]
    by_cases hard : (bounds.get c).isHard = true
    · rw [if_pos hard, met _ (List.get_mem bounds c) hard]
    · rw [if_neg hard]

theorem clip_shifts_optimal :
    (program u bounds penalty).Optimal (ownShifts u bounds (clip u bounds)) := by
  have met := sectorBounds.clip_meets_hard (u := u)
  have permitted := clip_permitted u bounds sectorBounds.sound
  refine ⟨own_shifts_feasible u bounds penalty permitted met, fun z feasible => ?_⟩
  calc (program u bounds penalty).objective (ownShifts u bounds (clip u bounds))
    _ = ∑ i, sectorCost u bounds penalty (clip u bounds) i :=
        sectorBounds.own_shifts_cost _ permitted met
    _ ≤ ∑ i, sectorCost u bounds penalty (decode u bounds z) i :=
        Finset.sum_le_sum fun i _ => sectorBounds.sector_cost_clip_le _
          (decode_meets_hard u bounds penalty feasible) i
    _ ≤ (program u bounds penalty).objective z := sectorBounds.sector_costs_le_objective feasible

theorem decode_optimal (optimal : (program u bounds penalty).Optimal x) :
    decode u bounds x = clip u bounds := by
  have met := sectorBounds.clip_meets_hard (u := u)
  have permitted := clip_permitted u bounds sectorBounds.sound
  have decoded := decode_meets_hard u bounds penalty optimal.toFeasible
  refine vector_ext_get fun i => ?_
  by_contra apart
  have dearer : ∑ i, sectorCost u bounds penalty (clip u bounds) i <
      ∑ i, sectorCost u bounds penalty (decode u bounds x) i :=
    Finset.sum_lt_sum (fun i _ => sectorBounds.sector_cost_clip_le _ decoded i)
      ⟨i, Finset.mem_univ i, sectorBounds.sector_cost_lt _ decoded i apart⟩
  have cheapest := optimal.least _ (own_shifts_feasible u bounds penalty permitted met)
  rw [sectorBounds.own_shifts_cost _ permitted met] at cheapest
  exact absurd (sectorBounds.sector_costs_le_objective optimal.toFeasible)
    (cheapest.trans_lt dearer).not_ge

end program

theorem optimum_is_clip (u : Vector K n) :
    (∀ z, (∃ x, (program u bounds penalty).Optimal x ∧ decode u bounds x = z) ↔
        z = clip u bounds) ∧
      ∀ i, (clip u bounds).get i =
        clampBetween (limitsOn (bounds.filter (·.isHard)) i)
          (clampBetween (limitsOn (bounds.filter (!·.isHard)) i) (u.get i)) := by
  refine ⟨fun z => ⟨?_, ?_⟩, fun i => ?_⟩
  · rintro ⟨x, optimal, rfl⟩
    exact sectorBounds.decode_optimal optimal
  · rintro rfl
    exact ⟨_, sectorBounds.clip_shifts_optimal,
      decode_own_shifts u bounds (clip_permitted u bounds sectorBounds.sound)⟩
  · rw [sectorBounds.clip_get, sectorBounds.softened_get]

end SectorBounds

def crossedBounds : List (Bound ℚ 4) :=
  [.standing .hard .upper [(0, 1)] 15, .standing .estimated .lower [(0, 2)] 40,
    .standing .estimated .upper [(1, 4)] 32, .standing .hard .lower [(1, 1)] 10,
    .standing .hard .upper [(1, 2)] 60, .standing .assumed .lower [(2, 3)] 27]

theorem crossed_bounds_optimum :
    SectorBounds 1000 crossedBounds ∧
      ∀ z, (∃ x, (program #v[5, 40, 7, 12] crossedBounds 1000).Optimal x ∧
        decode #v[5, 40, 7, 12] crossedBounds x = z) ↔ z = #v[15, 10, 9, 12] := by
  have sectorBounds : SectorBounds 1000 crossedBounds :=
    ⟨by decide, by decide +kernel, by decide +kernel, by decide +kernel, by decide +kernel⟩
  have clipped : clip #v[5, 40, 7, 12] crossedBounds = #v[15, 10, 9, 12] := by decide +kernel
  rw [← clipped]
  exact ⟨sectorBounds, (sectorBounds.optimum_is_clip #v[5, 40, 7, 12]).1⟩

end EconomicImpact
