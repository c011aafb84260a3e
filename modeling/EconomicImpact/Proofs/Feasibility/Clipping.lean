import Mathlib
import EconomicImpact.Feasibility.Clipping
import EconomicImpact.Proofs.Constraint.Bound

set_option autoImplicit false

namespace EconomicImpact

variable {K : Type} [Field K] [LinearOrder K] {n : Nat}

theorem sum_zip_shares (terms : List (Fin n × K)) (shares : List K)
    (distinct : (terms.map (·.1)).Nodup) :
    (terms.zipWith (fun (_, w) share => w * share) shares).sum =
      ∑ i, amountAt terms i * amountAt ((terms.map (·.1)).zip shares) i := by
  induction terms generalizing shares with
  | nil => simp
  | cons t rest ih =>
      cases shares with
      | nil => simp
      | cons share others =>
          obtain ⟨fresh, restDistinct⟩ := List.nodup_cons.mp distinct
          have apart : amountAt rest t.1 = 0 := amount_at_absent rest t.1 fresh
          have absent := amount_at_zip_absent (rest.map (·.1)) others t.1 fresh
          simp only [List.zipWith_cons_cons, List.sum_cons, ih others restDistinct, List.map_cons,
            List.zip_cons_cons, amount_at_cons, add_mul, mul_add, ite_mul, zero_mul, mul_ite,
            mul_zero, Finset.sum_add_distrib]
          simp [apart, absent]

namespace Bound

variable (b : Bound K n) (y : Vector K n)

def weightedBasis : K :=
  Scalar.total (b.terms.zipWith (fun (_, w) share => w * share) (b.basis y))

theorem weighted_basis_eq (distinct : b.sectors.Nodup) :
    b.weightedBasis y = ∑ i, amountAt b.terms i * b.share y i := by
  rw [weightedBasis, Scalar.total_eq_sum]
  exact sum_zip_shares b.terms (b.basis y) distinct

variable [IsStrictOrderedRing K]

theorem weighted_basis_pos (sound : b.Sound) : 0 < b.weightedBasis y := by
  rw [weightedBasis, Scalar.total_eq_sum, ← List.map_uncurry_zip_eq_zipWith]
  have nonneg : ∀ a ∈ (b.terms.zip (b.basis y)).map
      (Function.uncurry fun (t : Fin n × K) share => t.2 * share), 0 ≤ a := by
    intro a member
    obtain ⟨pair, listed, rfl⟩ := List.mem_map.mp member
    obtain ⟨term, share⟩ := List.of_mem_zip listed
    exact mul_nonneg (sound.positive _ term).le (b.basis_nonneg y _ share)
  obtain ⟨p, member, positive⟩ := b.basis_some_pos y sound.nonempty
  obtain ⟨k, inside, rfl⟩ := List.mem_iff_getElem.mp member
  have length : k < b.terms.length := by
    rw [b.basis_length, sectors, List.length_map] at inside
    exact inside
  have some_pos : b.terms[k].2 * (b.basis y)[k] ∈ (b.terms.zip (b.basis y)).map
      (Function.uncurry fun (t : Fin n × K) share => t.2 * share) :=
    List.mem_map.mpr ⟨(b.terms[k], (b.basis y)[k]),
      List.mem_iff_getElem.mpr ⟨k, by simp [length, inside], by simp⟩, rfl⟩
  have weight := sound.positive _ (List.getElem_mem length)
  exact lt_of_lt_of_le (mul_pos weight positive) (List.single_le_sum nonneg _ some_pos)

end Bound

namespace Clipping

variable (b : Bound K n) (y : Vector K n)

theorem spread_get (scale : K) (shares : List (Fin n × K)) (i : Fin n) :
    (spread scale y shares).get i = y.get i + amountAt shares i * scale := by
  simp only [spread, mul_comm scale]
  exact move_get shares scale y i

variable [IsStrictOrderedRing K]

theorem correction_eq :
    correction? b y = if b.violation y = 0 then none else some (b.limit - b.lhs y) := by
  have met := b.met_iff y
  unfold correction?
  cases sense : b.sense with
  | upper =>
      rw [sense] at met
      simp only [met, ← not_lt, ite_not]
  | lower =>
      rw [sense] at met
      simp only [met, ← not_lt, ite_not]

theorem apply_of_met (met : b.violation y = 0) : apply y b = y := by
  rw [apply, correction_eq, if_pos met]

-- One formula for groups and single sectors, since a group of one is moved by its whole share.
theorem apply_get (sound : b.Sound) (violated : b.violation y ≠ 0) (i : Fin n) :
    (apply y b).get i =
      y.get i + b.share y i * ((b.limit - b.lhs y) / b.weightedBasis y) := by
  rw [apply, correction_eq, if_neg violated]
  cases single : b.single? with
  | none => exact spread_get y _ _ i
  | some term =>
      obtain ⟨j, w⟩ := term
      have terms := single_term b j w single
      have weight : 0 < w := sound.positive (j, w) (by simp [terms])
      obtain ⟨p, only⟩ : ∃ p, b.basis y = [p] := by
        refine List.length_eq_one_iff.mp ?_
        rw [b.basis_length, Bound.sectors, terms]
        rfl
      have positive : 0 < p := by simpa [only] using b.basis_some_pos y sound.nonempty
      simp only [get_set, Bound.share, Bound.weightedBasis, Bound.lhs, Bound.sectors, terms, only,
        Scalar.total_eq_sum, List.map_cons, List.map_nil, List.zip_cons_cons, List.zip_nil_left,
        List.zipWith_cons_cons, List.zipWith_nil_left, List.sum_cons, List.sum_nil, add_zero,
        amount_at_cons, amount_at_nil]
      by_cases same : j = i
      · subst same
        rw [if_pos rfl, if_pos rfl]
        field_simp
        ring
      · rw [if_neg same, if_neg same, zero_mul, add_zero]

theorem apply_uncovered (sound : b.Sound) (i : Fin n) (uncovered : i ∉ b.sectors) :
    (apply y b).get i = y.get i := by
  by_cases met : b.violation y = 0
  · rw [apply_of_met b y met]
  · rw [apply_get b y sound met, b.share_absent y i uncovered, zero_mul, add_zero]

theorem lhs_apply (sound : b.Sound) (violated : b.violation y ≠ 0) :
    b.lhs (apply y b) = b.limit := by
  have moved := b.lhs_sub_lhs (apply y b) y
  simp only [apply_get b y sound violated, add_sub_cancel_left, ← mul_assoc,
    ← Finset.sum_mul] at moved
  rw [← b.weighted_basis_eq y sound.distinct,
    mul_div_cancel₀ _ (b.weighted_basis_pos y sound).ne'] at moved
  exact sub_left_inj.mp moved

theorem apply_meets (sound : b.Sound) : b.violation (apply y b) = 0 := by
  by_cases met : b.violation y = 0
  · rw [apply_of_met b y met, met]
  · rw [b.met_iff_within, lhs_apply b y sound met]
    exact .refl b.sense _

-- A bound moves sectors only in the direction that it calls for.
theorem apply_within (sound : b.Sound) (i : Fin n) :
    b.sense.Within (y.get i) ((apply y b).get i) := by
  by_cases met : b.violation y = 0
  · rw [apply_of_met b y met]
    exact .refl b.sense _
  · have share := b.share_nonneg y i
    have weighted := (b.weighted_basis_pos y sound).le
    have short := met
    rw [b.met_iff] at short
    rw [apply_get b y sound met]
    cases sense : b.sense with
    | upper =>
        rw [sense] at short
        have gap : (b.limit - b.lhs y) / b.weightedBasis y ≤ 0 :=
          div_nonpos_of_nonpos_of_nonneg (by linarith [not_le.mp short]) weighted
        exact add_le_of_nonpos_right (mul_nonpos_of_nonneg_of_nonpos share gap)
    | lower =>
        rw [sense] at short
        have gap : 0 ≤ (b.limit - b.lhs y) / b.weightedBasis y :=
          div_nonneg (by linarith [not_le.mp short]) weighted
        exact le_add_of_nonneg_right (mul_nonneg share gap)

theorem apply_keeps_same_sense (c : Bound K n) (sound : b.Sound) (soundOther : c.Sound)
    (same : b.sense = c.sense) (met : c.violation y = 0) : c.violation (apply y b) = 0 := by
  refine c.met_of_moved soundOther.positive met fun i _ => ?_
  rw [← same]
  exact apply_within b y sound i

theorem apply_keeps_disjoint (c : Bound K n) (sound : b.Sound)
    (disjoint : ∀ i ∈ c.sectors, i ∉ b.sectors) (met : c.violation y = 0) :
    c.violation (apply y b) = 0 := by
  rw [c.violation_congr fun i covered => apply_uncovered b y sound i (disjoint i covered), met]

section single

variable {b} {y} {j : Fin n} {w : K}

theorem apply_single_get (single : b.single? = some (j, w)) (weight : 0 < w) (i : Fin n) :
    (apply y b).get i = if j = i then b.sense.clamp (b.limit / w) (y.get i) else y.get i := by
  have met := b.single_met_iff single weight (y := y)
  rw [apply, correction_eq]
  by_cases kept : b.violation y = 0
  · rw [if_pos kept]
    by_cases same : j = i
    · rw [if_pos same, ← same, Sense.clamp_of_within (met.mp kept)]
    · rw [if_neg same]
  · rw [if_neg kept]
    simp only [single, get_set]
    by_cases same : j = i
    · rw [if_pos same, if_pos same, ← same, Sense.clamp_of_not_within (kept ∘ met.mpr)]
    · rw [if_neg same, if_neg same]

-- A bound on one sector moves it towards the value that any other vector meeting the bound has there.
theorem apply_single_between (single : b.single? = some (j, w)) (weight : 0 < w) (z : Vector K n)
    (met : b.violation z = 0) (i : Fin n) :
    (apply y b).get i ∈ Set.uIcc (y.get i) (z.get i) := by
  rw [apply_single_get single weight]
  by_cases same : j = i
  · rw [if_pos same, ← same]
    exact Sense.clamp_between ((b.single_met_iff single weight).mp met)
  · rw [if_neg same]
    exact Set.left_mem_uIcc

end single

-- Pairs of bounds of which clipping to one never undoes the other.
def Compatible (b c : Bound K n) : Prop :=
  b.sense = c.sense ∨ (b.isSingle = true ∧ c.isSingle = true) ∨ ∀ i ∈ b.sectors, i ∉ c.sectors

omit [LinearOrder K] [IsStrictOrderedRing K] [Field K] in
theorem Compatible.symm {b c : Bound K n} (compatible : Compatible b c) : Compatible c b := by
  rcases compatible with same | ⟨single, singleOther⟩ | disjoint
  · exact .inl same.symm
  · exact .inr (.inl ⟨singleOther, single⟩)
  · exact .inr (.inr fun i covered other => disjoint i other covered)

theorem apply_keeps (c : Bound K n) (sound : b.Sound) (soundOther : c.Sound)
    (compatible : Compatible b c) (z : Vector K n) (attained : b.violation z = 0)
    (attainedOther : c.violation z = 0) (met : c.violation y = 0) :
    c.violation (apply y b) = 0 := by
  rcases compatible with same | ⟨single, singleOther⟩ | disjoint
  · exact apply_keeps_same_sense b y c sound soundOther same met
  · obtain ⟨⟨j, w⟩, term⟩ := Option.isSome_iff_exists.mp single
    obtain ⟨⟨k, v⟩, termOther⟩ := Option.isSome_iff_exists.mp singleOther
    have weight := sound.weight_pos term
    have weightOther := soundOther.weight_pos termOther
    rw [c.single_met_iff termOther weightOther] at met attainedOther ⊢
    exact met.between attainedOther (apply_single_between term weight z attained k)
  · exact apply_keeps_disjoint b y c sound (fun i covered other => disjoint i other covered) met

omit [Field K] [LinearOrder K] [IsStrictOrderedRing K] in
theorem mem_passes {bounds : List (Bound K n)} (member : b ∈ passes bounds) : b ∈ bounds := by
  simp only [passes, List.mem_append, List.mem_filter] at member
  rcases member with ((⟨⟨listed, -⟩, -⟩ | ⟨⟨listed, -⟩, -⟩) | ⟨⟨listed, -⟩, -⟩) | ⟨⟨listed, -⟩, -⟩ <;>
    exact listed

-- Each bound is met when its turn comes, and no later one undoes it.
theorem clip_in_turn_meets (passes : List (Bound K n)) (sound : ∀ b ∈ passes, b.Sound)
    (kept : passes.Pairwise fun c b => ∀ y, c.violation y = 0 → c.violation (apply y b) = 0) :
    ∀ b ∈ passes, b.violation (passes.foldl apply y) = 0 := by
  induction passes generalizing y with
  | nil => simp
  | cons first rest ih =>
      obtain ⟨headKept, restKept⟩ := List.pairwise_cons.mp kept
      obtain ⟨firstSound, restSound⟩ := List.forall_mem_cons.mp sound
      rw [List.foldl_cons, List.forall_mem_cons]
      refine ⟨?_, ih _ restSound restKept⟩
      exact List.foldlRecOn (motive := fun y => first.violation y = 0) rest apply
        (apply_meets first y firstSound) fun y met b listed => headKept b listed y met

end Clipping

open Clipping in
theorem clip_permitted [IsStrictOrderedRing K] (u : Vector K n) (bounds : List (Bound K n))
    (sound : ∀ b ∈ bounds, b.Sound) : Permitted u bounds (clip u bounds) := by
  refine List.foldlRecOn (motive := Permitted u bounds) (passes bounds) apply
    ⟨fun i _ => le_refl _, fun i _ => le_refl _⟩ fun y permitted b turn => ?_
  have listed := mem_passes b turn
  have within := apply_within b y (sound b listed)
  have still (i : Fin n) (uncalled : movable b.sense bounds i = false) :
      (apply y b).get i = y.get i := by
    refine apply_uncovered b y (sound b listed) i fun covered => ?_
    rw [movable_of_mem b listed i covered] at uncalled
    cases uncalled
  cases sense : b.sense with
  | upper =>
      rw [sense] at within still
      have falls : ∀ i, (apply y b).get i ≤ y.get i := within
      exact ⟨fun i uncalled => (falls i).trans (permitted.unraised i uncalled),
        fun i uncalled => (permitted.unlowered i uncalled).trans_eq (still i uncalled).symm⟩
  | lower =>
      rw [sense] at within still
      have rises : ∀ i, y.get i ≤ (apply y b).get i := within
      exact ⟨fun i uncalled => (still i uncalled).trans_le (permitted.unraised i uncalled),
        fun i uncalled => (permitted.unlowered i uncalled).trans (rises i)⟩

open Clipping in
theorem clip_meets_hard [IsStrictOrderedRing K] (u : Vector K n) (bounds : List (Bound K n))
    (sound : ∀ b ∈ bounds, b.Sound)
    (compatible : bounds.Pairwise fun b c => b.isHard = true → c.isHard = true → Compatible b c)
    (attainable : ∃ z, MeetsHard bounds z) : MeetsHard bounds (clip u bounds) := by
  obtain ⟨z, attained⟩ := attainable
  let hard := bounds.filter (·.isHard)
  let turns := hard.filter (·.isSingle) ++ hard.filter (!·.isSingle)
  have listed (b : Bound K n) (member : b ∈ hard) : b ∈ bounds ∧ b.isHard = true :=
    List.mem_filter.mp member
  have reordered : turns.Perm hard := List.filter_append_perm _ _
  have hardCompatible : hard.Pairwise Compatible := by
    refine (compatible.filter _).imp_of_mem fun {b c} first second pair => ?_
    exact pair (listed b first).2 (listed c second).2
  have kept : turns.Pairwise fun c b =>
      ∀ y, c.violation y = 0 → c.violation (apply y b) = 0 := by
    refine ((reordered.pairwise_iff fun pair => pair.symm).mpr hardCompatible).imp_of_mem ?_
    intro c b first second pair y met
    obtain ⟨inC, hardC⟩ := listed c (reordered.mem_iff.mp first)
    obtain ⟨inB, hardB⟩ := listed b (reordered.mem_iff.mp second)
    exact apply_keeps b y c (sound b inB) (sound c inC) pair.symm z (attained b inB hardB)
      (attained c inC hardC) met
  have clipped : clip u bounds = turns.foldl apply
      (((bounds.filter (!·.isHard)).filter (·.isSingle) ++
        (bounds.filter (!·.isHard)).filter (!·.isSingle)).foldl apply u) := by
    simp only [clip, passes, turns, hard, List.foldl_append]
  intro b member isHard
  rw [clipped]
  refine clip_in_turn_meets _ turns
    (fun c member => sound c (listed c (reordered.mem_iff.mp member)).1) kept b ?_
  exact reordered.mem_iff.mpr (List.mem_filter.mpr ⟨member, isHard⟩)

end EconomicImpact
