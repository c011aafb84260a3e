import Mathlib
import EconomicImpact.Proofs.Workforce.Breakdown

set_option autoImplicit false

namespace EconomicImpact

variable {K : Type} [Field K] [LinearOrder K]

namespace Band

structure Ordered (band : Band K) : Prop where
  min_le_mid : band.min ≤ band.mid
  mid_le_max : band.mid ≤ band.max

structure OrderedWithin (jobs : K) (band : Band K) : Prop extends Ordered band where
  from_jobs : Min.min 0 jobs ≤ band.min
  to_jobs : band.max ≤ Max.max 0 jobs

structure IsShares (band : Band K) : Prop extends Ordered band where
  nonneg : 0 ≤ band.min
  le_one : band.max ≤ 1

theorem check_shares_ok_iff (band : Band K) : band.checkShares = .ok () ↔ band.IsShares := by
  unfold checkShares
  simp only [Bool.and_eq_true, decide_eq_true_eq]
  by_cases shares : ((0 ≤ band.min ∧ band.min ≤ band.mid) ∧ band.mid ≤ band.max) ∧ band.max ≤ 1
  · obtain ⟨⟨⟨nonneg, lower⟩, upper⟩, le_one⟩ := id shares
    rw [if_pos shares]
    exact iff_of_true rfl ⟨⟨lower, upper⟩, nonneg, le_one⟩
  · rw [if_neg shares]
    refine iff_of_false (fun ok => nomatch ok) fun given => shares ?_
    exact ⟨⟨⟨given.nonneg, given.min_le_mid⟩, given.mid_le_max⟩, given.le_one⟩

variable [IsStrictOrderedRing K]

theorem clamp_unit_mem (share : K) : 0 ≤ Scalar.clampUnit share ∧ Scalar.clampUnit share ≤ 1 := by
  unfold Scalar.clampUnit
  by_cases below : share < 0
  · rw [if_pos below]
    exact ⟨le_rfl, zero_le_one⟩
  · rw [if_neg below]
    by_cases above : 1 < share
    · rw [if_pos above]
      exact ⟨zero_le_one, le_rfl⟩
    · rw [if_neg above]
      exact ⟨not_lt.mp below, not_lt.mp above⟩

theorem around_is_shares (share : K) {sensitivity : K} (nonneg : 0 ≤ sensitivity) :
    (around share sensitivity).IsShares := by
  obtain ⟨zero_le, le_one⟩ := clamp_unit_mem share
  simp only [around, Scalar.larger_eq_max, Scalar.smaller_eq_min]
  refine ⟨⟨?_, ?_⟩, le_max_right _ _, min_le_right _ _⟩
  · exact max_le (sub_le_self _ nonneg) zero_le
  · exact le_min (le_add_of_nonneg_right nonneg) le_one

theorem around_crossed (share : K) {sensitivity : K} (negative : sensitivity < 0) :
    (around share sensitivity).mid < (around share sensitivity).min ∧
      (around share sensitivity).max < (around share sensitivity).mid := by
  simp only [around, Scalar.larger_eq_max, Scalar.smaller_eq_min]
  constructor
  · exact lt_max_of_lt_left (lt_sub_left_of_add_lt (by linarith))
  · exact min_lt_of_left_lt (add_lt_of_neg_right _ negative)

theorem of_shares_within (jobs : K) {shares : Band K} (given : shares.IsShares) :
    (ofShares jobs shares).OrderedWithin jobs := by
  obtain ⟨⟨lower, upper⟩, nonneg, le_one⟩ := given
  unfold ofShares
  by_cases gain : 0 ≤ jobs
  · rw [if_pos gain]
    refine ⟨⟨?_, ?_⟩, ?_, ?_⟩
    · exact mul_le_mul_of_nonneg_left lower gain
    · exact mul_le_mul_of_nonneg_left upper gain
    · exact (min_le_left _ _).trans (mul_nonneg gain nonneg)
    · exact (mul_le_of_le_one_right gain le_one).trans (le_max_right _ _)
  · have loss := (not_le.mp gain).le
    rw [if_neg gain]
    refine ⟨⟨?_, ?_⟩, ?_, ?_⟩
    · exact mul_le_mul_of_nonpos_left upper loss
    · exact mul_le_mul_of_nonpos_left lower loss
    · exact (min_le_right _ _).trans (le_mul_of_le_one_right loss le_one)
    · exact (mul_nonpos_of_nonpos_of_nonneg loss nonneg).trans (le_max_left _ _)

omit [IsStrictOrderedRing K] in
theorem of_shares_zero (shares : Band K) : (ofShares 0 shares).OrderedWithin 0 := by
  simp only [ofShares, le_refl, if_true, zero_mul]
  exact ⟨⟨le_rfl, le_rfl⟩, (min_self _).le, (max_self _).ge⟩

theorem of_shares_crossed (jobs : K) {shares : Band K} (some : jobs ≠ 0)
    (low : shares.mid < shares.min) (high : shares.max < shares.mid) :
    ¬(ofShares jobs shares).Ordered := by
  rintro ⟨lower, -⟩
  unfold ofShares at lower
  by_cases gain : 0 ≤ jobs
  · rw [if_pos gain] at lower
    exact absurd (le_of_mul_le_mul_left lower (lt_of_le_of_ne gain some.symm)) (not_le.mpr low)
  · rw [if_neg gain] at lower
    have loss := not_le.mp gain
    exact absurd (mul_lt_mul_of_neg_left high loss) (not_lt.mpr lower)

theorem total_ordered (bands : List (Band K)) (each : ∀ band ∈ bands, band.Ordered) :
    (total bands).Ordered := by
  have sum := total_is_sum bands
  constructor
  · rw [sum.min, sum.mid]
    exact List.sum_le_sum fun band listed => (each band listed).min_le_mid
  · rw [sum.mid, sum.max]
    exact List.sum_le_sum fun band listed => (each band listed).mid_le_max

end Band

theorem TierBands.check_ok_iff (bands : TierBands K) :
    bands.check = .ok () ↔ ∀ tier, (bands.get tier).IsShares := by
  have shares (tier : NationalityTier) := (bands.get tier).check_shares_ok_iff
  simp only [check, Outcome.bind_ok_iff]
  constructor
  · rintro ⟨⟨⟩, ready, ⟨⟩, trainable, reliant⟩ tier
    cases tier with
    | saudiReady => exact (shares .saudiReady).mp ready
    | saudiTrainable => exact (shares .saudiTrainable).mp trainable
    | expatReliant => exact (shares .expatReliant).mp reliant
  · intro each
    exact ⟨⟨⟩, (shares .saudiReady).mpr (each _), ⟨⟩, (shares .saudiTrainable).mpr (each _),
      (shares .expatReliant).mpr (each _)⟩

namespace Workforce

structure RangesOrdered (result : WorkforceResult K) : Prop where
  splits : ∀ s ∈ result.splits, s.nationalJobs.OrderedWithin s.totalJobs
  tiers : ∀ sector ∈ result.sectors, ∀ t ∈ sector.tiers, t.nationalJobs.Ordered
  sectors : ∀ sector ∈ result.sectors, sector.nationalJobs.Ordered
  total : result.totalNationalJobs.Ordered

-- The band of a split: of its tier, or around the share that is known.
theorem split_national_jobs (settings : WorkforceSettings K) (classifications : Classifications K)
    (impact : OccupationImpact K) (s : NationalitySplit K)
    (made : (split settings classifications impact).1 = s) :
    s.nationalJobs = .ofShares s.totalJobs (match s.currentShare with
      | some share => .around share settings.knownShareSensitivity
      | none => settings.tierBands.get s.tier) := by
  subst made
  unfold split
  dsimp only
  cases classifications.get? impact.sectorCode impact.occupationCode <;> rfl

variable [IsStrictOrderedRing K] {settings : WorkforceSettings K} {jobs : SectorVector K}
  {inputs : WorkforceInputs K} {result : WorkforceResult K}

theorem split_ordered_iff (bands : settings.tierBands.check = .ok ())
    (classifications : Classifications K) (impact : OccupationImpact K) (s : NationalitySplit K)
    (made : (split settings classifications impact).1 = s) :
    s.nationalJobs.OrderedWithin s.totalJobs ↔
      0 ≤ settings.knownShareSensitivity ∨ (s.currentShare.isSome → s.totalJobs = 0) := by
  rw [split_national_jobs settings classifications impact s made]
  cases known : s.currentShare with
  | none =>
      refine iff_of_true ?_ (.inr fun present => nomatch present)
      exact Band.of_shares_within _ ((TierBands.check_ok_iff _).mp bands s.tier)
  | some share =>
      simp only [Option.isSome_some, forall_const]
      constructor
      · intro within
        by_contra neither
        obtain ⟨negative, some⟩ := not_or.mp neither
        obtain ⟨low, high⟩ := Band.around_crossed share (not_le.mp negative)
        exact Band.of_shares_crossed s.totalJobs some low high within.toOrdered
      · rintro (nonneg | nothing)
        · exact Band.of_shares_within _ (Band.around_is_shares share nonneg)
        · rw [nothing]
          exact Band.of_shares_zero _

theorem Decomposed.ranges_ordered (decomposed : Decomposed settings jobs inputs result)
    (splits : ∀ s ∈ result.splits, s.nationalJobs.OrderedWithin s.totalJobs) :
    RangesOrdered result := by
  have part (p : NationalitySplit K → Bool) :
      ∀ band ∈ (result.splits.filter p).map (·.nationalJobs), band.Ordered := by
    rw [List.forall_mem_map]
    exact fun s listed => (splits s (List.mem_of_mem_filter listed)).toOrdered
  have sectors : ∀ sector ∈ result.sectors, sector.nationalJobs.Ordered := by
    rw [decomposed.sectors, List.forall_mem_map]
    exact fun entry _ => Band.total_ordered _ (part _)
  refine ⟨splits, ?_, sectors, ?_⟩
  · rw [decomposed.sectors, List.forall_mem_map]
    intro entry _
    change ∀ t ∈ NationalityTier.all.map _, _
    rw [List.forall_mem_map]
    intro tier _
    refine Band.total_ordered _ ?_
    rw [List.filter_filter]
    exact part _
  · rw [decomposed.total]
    refine Band.total_ordered _ ?_
    rw [List.forall_mem_map]
    exact sectors

theorem national_ranges_ordered_iff (settings : WorkforceSettings K) (jobs : SectorVector K)
    (inputs : WorkforceInputs K) (key : WorkforceKey) (result : WorkforceResult K)
    (ok : decompose settings jobs inputs key = .ok result) :
    RangesOrdered result ↔ 0 ≤ settings.knownShareSensitivity ∨
      ∀ s ∈ result.splits, s.currentShare.isSome → s.totalJobs = 0 := by
  have decomposed := decomposed_of_ok ok
  have each : ∀ s ∈ result.splits, s.nationalJobs.OrderedWithin s.totalJobs ↔
      0 ≤ settings.knownShareSensitivity ∨ (s.currentShare.isSome → s.totalJobs = 0) := by
    intro s listed
    rw [decomposed.splits] at listed
    obtain ⟨impact, -, made⟩ := List.mem_map.mp listed
    exact split_ordered_iff decomposed.bands inputs.classifications impact s made
  constructor
  · intro ordered
    by_cases nonneg : 0 ≤ settings.knownShareSensitivity
    · exact .inl nonneg
    · refine .inr fun s listed => ?_
      exact ((each s listed).mp (ordered.splits s listed)).resolve_left nonneg
  · intro condition
    refine decomposed.ranges_ordered fun s listed => (each s listed).mpr ?_
    exact condition.imp_right fun unknown => unknown s listed

def knownShareInputs : WorkforceInputs ℚ where
  bridge := ⟨"b", .ofList [("S1", .ofList [("2", 1)])]⟩
  classifications := ⟨"c", [⟨"S1", "2", .saudiReady, some (1 / 2), ""⟩]⟩
  goals := []
  baseline := []

def widthSettings (sensitivity : ℚ) : WorkforceSettings ℚ :=
  { (Settings.standard : Settings ℚ).workforce with knownShareSensitivity := sensitivity }

theorem negative_width_crosses_ranges :
    ∃ result, decompose (widthSettings (-1 / 10)) ⟨[("S1", 100)]⟩ knownShareInputs
        ⟨.nil, .nil, .unconstrained⟩ = .ok result ∧
      result.splits.map (·.nationalJobs) = [⟨60, 50, 40⟩] ∧
      result.totalNationalJobs = ⟨60, 50, 40⟩ ∧ ¬RangesOrdered result := by
  have facts : (decompose (widthSettings (-1 / 10)) ⟨[("S1", 100)]⟩ knownShareInputs
      ⟨.nil, .nil, .unconstrained⟩).toOption.any (fun result =>
        decide (result.splits.map (·.nationalJobs) = [⟨60, 50, 40⟩]) &&
        decide (result.totalNationalJobs = ⟨60, 50, 40⟩)) = true := by
    decide +kernel
  obtain ⟨result, ok, values⟩ := (Outcome.any_ok_iff _ _).mp facts
  simp only [Bool.and_eq_true, decide_eq_true_iff] at values
  refine ⟨result, ok, values.1, values.2, fun ordered => ?_⟩
  have lower := ordered.total.min_le_mid
  rw [values.2] at lower
  exact absurd lower (by decide)

theorem losses_keep_ranges_ordered :
    ∃ result, decompose (widthSettings (1 / 10)) ⟨[("S1", -100)]⟩ knownShareInputs
        ⟨.nil, .nil, .unconstrained⟩ = .ok result ∧
      result.totalNationalJobs = ⟨-60, -50, -40⟩ ∧ RangesOrdered result := by
  have facts : (decompose (widthSettings (1 / 10)) ⟨[("S1", -100)]⟩ knownShareInputs
      ⟨.nil, .nil, .unconstrained⟩).toOption.any (fun result =>
        decide (result.totalNationalJobs = ⟨-60, -50, -40⟩)) = true := by
    decide +kernel
  obtain ⟨result, ok, value⟩ := (Outcome.any_ok_iff _ _).mp facts
  have nonneg : 0 ≤ (widthSettings (1 / 10)).knownShareSensitivity := by norm_num [widthSettings]
  have ordered := (national_ranges_ordered_iff _ _ _ _ result ok).mpr (.inl nonneg)
  exact ⟨result, ok, of_decide_eq_true value, ordered⟩

end Workforce

end EconomicImpact
