import Mathlib
import EconomicImpact.Proofs.Outcome
import EconomicImpact.Proofs.Scalar.Exact
import EconomicImpact.Workforce.Decomposition

set_option autoImplicit false

namespace EconomicImpact

variable {K : Type} [Field K] [LinearOrder K]

namespace Band

structure IsSum (bands : List (Band K)) (band : Band K) : Prop where
  min : band.min = (bands.map (·.min)).sum
  mid : band.mid = (bands.map (·.mid)).sum
  max : band.max = (bands.map (·.max)).sum

theorem total_is_sum (bands : List (Band K)) : IsSum bands (total bands) := by
  have fold : ∀ start : Band K, bands.foldl add start =
      ⟨start.min + (bands.map (·.min)).sum, start.mid + (bands.map (·.mid)).sum,
        start.max + (bands.map (·.max)).sum⟩ := by
    induction bands with
    | nil => simp
    | cons band rest ih =>
        intro start
        rw [List.foldl_cons, ih]
        simp only [add, List.map_cons, List.sum_cons, add_assoc]
  rw [total, fold]
  constructor <;> exact zero_add _

end Band

theorem sum_of_parts {β : Type} {groups : List (List β)} {whole : List β}
    (parts : groups.flatten.Perm whole) (f : β → K) :
    (groups.map fun group => (group.map f).sum).sum = (whole.map f).sum := by
  rw [← (parts.map f).sum_eq, List.map_flatten, List.sum_flatten, List.map_map]
  rfl

theorem Band.is_sum_of_parts {β : Type} {groups : List (List β)} {whole : List β}
    (parts : groups.flatten.Perm whole) (image : β → Band K) :
    IsSum (groups.map fun group => total (group.map image)) (total (whole.map image)) := by
  constructor
  · simp only [(total_is_sum _).min, List.map_map, Function.comp_def]
    exact (sum_of_parts parts fun b => (image b).min).symm
  · simp only [(total_is_sum _).mid, List.map_map, Function.comp_def]
    exact (sum_of_parts parts fun b => (image b).mid).symm
  · simp only [(total_is_sum _).max, List.map_map, Function.comp_def]
    exact (sum_of_parts parts fun b => (image b).max).symm

structure SharesOut (sector : String) (jobs : K) (impacts : List (OccupationImpact K)) : Prop where
  own : ∀ impact ∈ impacts, impact.sectorCode = sector
  proportional : ∀ impact ∈ impacts, impact.jobs = jobs * impact.shareOfSector
  share_nonneg : ∀ impact ∈ impacts, 0 ≤ impact.shareOfSector
  share_sum : (impacts.map (·.shareOfSector)).sum = 1

theorem SharesOut.jobs_sum {sector : String} {jobs : K} {impacts : List (OccupationImpact K)}
    (shares : SharesOut sector jobs impacts) : (impacts.map (·.jobs)).sum = jobs := by
  rw [List.map_congr_left shares.proportional, List.sum_map_mul_left, shares.share_sum, mul_one]

namespace OccupationBridge

section

variable [IsStrictOrderedRing K] (sector : String) (jobs tolerance : K)

theorem default_shares_out (findings : List (WorkforceFinding K)) :
    SharesOut sector jobs (defaultSpread sector jobs findings).impacts := by
  constructor <;> simp [defaultSpread]

theorem spread_row_shares_out (row : List (String × K)) :
    SharesOut sector jobs (spreadRow sector jobs tolerance row).impacts := by
  unfold spreadRow
  dsimp only
  generalize usableRow : row.filter (fun entry => isUsable entry.2) = usable
  rw [Scalar.total_eq_sum]
  by_cases empty : (usable.map (·.2)).sum ≤ 0
  · rw [if_pos empty]
    exact default_shares_out sector jobs _
  · rw [if_neg empty]
    have positive := not_le.mp empty
    have weights : ∀ entry ∈ usable, 0 ≤ entry.2 := by
      intro entry member
      rw [← usableRow] at member
      simpa [isUsable] using (List.mem_filter.mp member).2
    refine ⟨?_, ?_, ?_, ?_⟩
    · rw [List.forall_mem_map]
      exact fun entry _ => rfl
    · rw [List.forall_mem_map]
      exact fun entry _ => rfl
    · rw [List.forall_mem_map]
      exact fun entry member => div_nonneg (weights entry member) positive.le
    · rw [List.map_map]
      change (usable.map fun entry => entry.2 / (usable.map (·.2)).sum).sum = 1
      simp only [div_eq_mul_inv]
      rw [List.sum_map_mul_right, mul_inv_cancel₀ positive.ne']

theorem spread_sector_shares_out (b : OccupationBridge K) :
    SharesOut sector jobs (b.spreadSector tolerance sector jobs).impacts := by
  unfold spreadSector
  cases b.shares.get? sector with
  | some row => exact spread_row_shares_out sector jobs tolerance row.entries
  | none => exact default_shares_out sector jobs []

end

variable (b : OccupationBridge K) (jobs : SectorVector K) (tolerance : K)

theorem spread_impacts : (b.spread jobs tolerance).impacts =
    jobs.entries.flatMap fun entry => (b.spreadSector tolerance entry.1 entry.2).impacts :=
  List.flatMap_map ..

variable [IsStrictOrderedRing K]

theorem spread_known (impact : OccupationImpact K)
    (listed : impact ∈ (b.spread jobs tolerance).impacts) :
    impact.sectorCode ∈ jobs.entries.map (·.1) := by
  rw [spread_impacts] at listed
  obtain ⟨entry, member, part⟩ := List.mem_flatMap.mp listed
  rw [(b.spread_sector_shares_out entry.1 entry.2 tolerance).own impact part]
  exact List.mem_map_of_mem member

-- The codes are distinct, so no other sector adds to the impacts under a code.
theorem spread_of_sector (distinct : (jobs.entries.map (·.1)).Nodup) (entry : String × K)
    (member : entry ∈ jobs.entries) :
    (b.spread jobs tolerance).impacts.filter (·.sectorCode == entry.1) =
      (b.spreadSector tolerance entry.1 entry.2).impacts := by
  obtain ⟨before, after, parts⟩ := List.append_of_mem member
  have own (other : String × K) : ∀ impact ∈ (b.spreadSector tolerance other.1 other.2).impacts,
      impact.sectorCode = other.1 :=
    (b.spread_sector_shares_out other.1 other.2 tolerance).own
  have none (others : List (String × K)) (apart : entry.1 ∉ others.map (·.1)) :
      (others.flatMap fun other => (b.spreadSector tolerance other.1 other.2).impacts).filter
        (·.sectorCode == entry.1) = [] := by
    refine List.filter_eq_nil_iff.mpr fun impact listed same => apart ?_
    obtain ⟨other, known, part⟩ := List.mem_flatMap.mp listed
    rw [← eq_of_beq same, own other impact part]
    exact List.mem_map_of_mem known
  have all : ((b.spreadSector tolerance entry.1 entry.2).impacts).filter
      (·.sectorCode == entry.1) = (b.spreadSector tolerance entry.1 entry.2).impacts :=
    List.filter_eq_self.mpr fun impact part => beq_iff_eq.mpr (own entry impact part)
  rw [parts, List.map_append, List.map_cons, List.nodup_middle, List.nodup_cons,
    List.mem_append, not_or] at distinct
  rw [spread_impacts, parts, List.flatMap_append, List.flatMap_cons, List.filter_append,
    List.filter_append, none before distinct.1.1, none after distinct.1.2, all, List.nil_append,
    List.append_nil]

end OccupationBridge

namespace Workforce

structure Splits {α : Type} (impact : OccupationImpact α) (s : NationalitySplit α) : Prop where
  sector : s.sectorCode = impact.sectorCode
  occupation : s.occupationCode = impact.occupationCode
  jobs : s.totalJobs = impact.jobs

theorem split_splits {α : Type} [Scalar α] (settings : WorkforceSettings α)
    (classifications : Classifications α) (impact : OccupationImpact α) :
    Splits impact (split settings classifications impact).1 := by
  unfold split
  dsimp only
  cases classifications.get? impact.sectorCode impact.occupationCode <;> exact ⟨rfl, rfl, rfl⟩

theorem tiers_part {α : Type} (splits : List (NationalitySplit α)) :
    (NationalityTier.all.map fun tier => splits.filter (·.tier == tier)).flatten.Perm splits := by
  induction splits with
  | nil => rfl
  | cons s rest ih =>
      simp only [NationalityTier.all, List.map_cons, List.map_nil, List.flatten_cons,
        List.flatten_nil, List.append_nil] at ih ⊢
      cases tier : s.tier with
      | saudiReady => simpa [tier] using ih
      | saudiTrainable =>
          simp only [List.filter_cons, tier]
          exact List.perm_middle.trans (ih.cons s)
      | expatReliant =>
          simp only [List.filter_cons, tier]
          rw [← List.append_assoc] at ih ⊢
          exact List.perm_middle.trans (ih.cons s)

structure Decomposed {α : Type} [Scalar α] (settings : WorkforceSettings α)
    (jobs : SectorVector α) (inputs : WorkforceInputs α) (result : WorkforceResult α) : Prop where
  bands : settings.tierBands.check = .ok ()
  occupations : result.occupations = (inputs.bridge.spread jobs settings.bridgeTolerance).impacts
  splits : result.splits =
    result.occupations.map fun impact => (split settings inputs.classifications impact).1
  sectors : result.sectors =
    jobs.entries.map fun entry => sectorWorkforce inputs result.splits entry.1 entry.2
  total : result.totalNationalJobs = Band.total (result.sectors.map (·.nationalJobs))
  totalJobs : result.totalJobs = jobs.total

theorem decomposed_of_ok {α : Type} [Scalar α] {settings : WorkforceSettings α}
    {jobs : SectorVector α} {inputs : WorkforceInputs α} {key : WorkforceKey}
    {result : WorkforceResult α} (ok : decompose settings jobs inputs key = .ok result) :
    Decomposed settings jobs inputs result := by
  obtain ⟨⟨⟩, bands, rest⟩ := (Outcome.bind_ok_iff _ _ _).mp ok
  rw [Outcome.pure_ok_iff] at rest
  subst rest
  refine ⟨bands, rfl, ?_, rfl, rfl, rfl⟩
  simp only [List.map_map]
  rfl

def impactsOf (result : WorkforceResult K) (sector : String) : List (OccupationImpact K) :=
  result.occupations.filter (·.sectorCode == sector)

def splitsOf (result : WorkforceResult K) (sector : String) : List (NationalitySplit K) :=
  result.splits.filter (·.sectorCode == sector)

def splitsIn (result : WorkforceResult K) (sector : String) (tier : NationalityTier) :
    List (NationalitySplit K) :=
  (splitsOf result sector).filter (·.tier == tier)

structure AddsUp (result : WorkforceResult K) (entry : String × K) (sector : SectorWorkforce K) :
    Prop where
  code : sector.sectorCode = entry.1
  totalJobs : sector.totalJobs = entry.2
  shares : SharesOut entry.1 entry.2 (impactsOf result entry.1)
  impacts : ((impactsOf result entry.1).map (·.jobs)).sum = entry.2
  tiers : sector.tiers.map (·.tier) = NationalityTier.all
  parts : (sector.tiers.map fun t => splitsIn result entry.1 t.tier).flatten.Perm
    (splitsOf result entry.1)
  tierJobs : ∀ t ∈ sector.tiers, t.jobs = ((splitsIn result entry.1 t.tier).map (·.totalJobs)).sum
  tierBands : ∀ t ∈ sector.tiers,
    Band.IsSum ((splitsIn result entry.1 t.tier).map (·.nationalJobs)) t.nationalJobs
  jobs : (sector.tiers.map (·.jobs)).sum = entry.2
  bands : Band.IsSum (sector.tiers.map (·.nationalJobs)) sector.nationalJobs

variable {settings : WorkforceSettings K} {jobs : SectorVector K} {inputs : WorkforceInputs K}
  {result : WorkforceResult K}

theorem Decomposed.each_split (decomposed : Decomposed settings jobs inputs result) :
    List.Forall₂ Splits result.occupations result.splits := by
  rw [decomposed.splits, List.forall₂_map_right_iff, List.forall₂_same]
  exact fun impact _ => split_splits settings inputs.classifications impact

-- A split has the sector of its impact, so the splits of a sector have the jobs of its impacts.
theorem Decomposed.split_jobs (decomposed : Decomposed settings jobs inputs result)
    (sector : String) : ((splitsOf result sector).map (·.totalJobs)).sum =
      ((impactsOf result sector).map (·.jobs)).sum := by
  have same (impact : OccupationImpact K) := split_splits settings inputs.classifications impact
  simp only [splitsOf, impactsOf, decomposed.splits, List.filter_map, List.map_map,
    Function.comp_def, (same _).sector, (same _).jobs]

variable [IsStrictOrderedRing K]

theorem Decomposed.sector_adds_up (decomposed : Decomposed settings jobs inputs result)
    (distinct : (jobs.entries.map (·.1)).Nodup) (entry : String × K)
    (member : entry ∈ jobs.entries) :
    AddsUp result entry (sectorWorkforce inputs result.splits entry.1 entry.2) := by
  have shares : SharesOut entry.1 entry.2 (impactsOf result entry.1) := by
    rw [impactsOf, decomposed.occupations,
      inputs.bridge.spread_of_sector jobs settings.bridgeTolerance distinct entry member]
    exact inputs.bridge.spread_sector_shares_out entry.1 entry.2 settings.bridgeTolerance
  have parts := tiers_part (splitsOf result entry.1)
  have tiers : (sectorWorkforce inputs result.splits entry.1 entry.2).tiers =
      NationalityTier.all.map (tierJobs (splitsOf result entry.1) (inputs.goal? entry.1)) := rfl
  refine ⟨rfl, rfl, shares, shares.jobs_sum, rfl, parts, ?_, ?_, ?_, ?_⟩
  · rw [tiers, List.forall_mem_map]
    exact fun tier _ => Scalar.total_eq_sum _
  · rw [tiers, List.forall_mem_map]
    exact fun tier _ => Band.total_is_sum _
  · have sum := sum_of_parts parts (·.totalJobs)
    rw [decomposed.split_jobs, shares.jobs_sum] at sum
    rw [tiers, ← sum]
    simp only [tierJobs, Scalar.total_eq_sum, List.map_map, Function.comp_def]
  · have sum := Band.is_sum_of_parts parts (·.nationalJobs)
    rw [List.map_map] at sum
    rw [tiers, List.map_map]
    exact sum

theorem decomposition_adds_up (settings : WorkforceSettings K) (jobs : SectorVector K)
    (inputs : WorkforceInputs K) (key : WorkforceKey) (result : WorkforceResult K)
    (distinct : (jobs.entries.map (·.1)).Nodup)
    (ok : decompose settings jobs inputs key = .ok result) :
    List.Forall₂ (AddsUp result) jobs.entries result.sectors ∧
      (∀ impact ∈ result.occupations, impact.sectorCode ∈ jobs.entries.map (·.1)) ∧
      List.Forall₂ Splits result.occupations result.splits ∧
      result.totalJobs = (jobs.entries.map (·.2)).sum ∧
      Band.IsSum (result.sectors.map (·.nationalJobs)) result.totalNationalJobs := by
  have decomposed := decomposed_of_ok ok
  refine ⟨?_, ?_, decomposed.each_split, ?_, ?_⟩
  · rw [decomposed.sectors, List.forall₂_map_right_iff, List.forall₂_same]
    exact decomposed.sector_adds_up distinct
  · rw [decomposed.occupations]
    exact inputs.bridge.spread_known jobs settings.bridgeTolerance
  · rw [decomposed.totalJobs, SectorVector.total, Scalar.total_eq_sum]
  · rw [decomposed.total]
    exact Band.total_is_sum _

def mixedBridge : OccupationBridge ℚ where
  version := ""
  shares := .ofList [("A", .ofList [("2", 1), ("7", 3), ("8", -2)]), ("B", .ofList []),
    ("C", .ofList [("1", 0), ("2", 0)])]

def mixedJobs : SectorVector ℚ := ⟨[("A", 100), ("B", -40), ("C", 0), ("D", 8)]⟩

def mixedInputs : WorkforceInputs ℚ where
  bridge := mixedBridge
  classifications := ⟨"", [⟨"A", "2", .saudiReady, some (1 / 2), ""⟩,
    ⟨"A", "7", .saudiTrainable, none, ""⟩, ⟨"B", "9", .saudiReady, none, ""⟩]⟩
  goals := []
  baseline := []

theorem mixed_bridge_adds_up :
    ∃ result, decompose Settings.standard.workforce mixedJobs mixedInputs
        ⟨.nil, .nil, .unconstrained⟩ = .ok result ∧
      (mixedJobs.entries.map (·.1)).Nodup ∧
      List.Forall₂ (AddsUp result) mixedJobs.entries result.sectors ∧
      result.occupations.map (·.jobs) = [25, 75, -40, 0, 8] ∧
      result.sectors.map (·.nationalJobs) =
        [⟨25, 85 / 2, 60⟩, ⟨-40, -34, -28⟩, ⟨0, 0, 0⟩, ⟨0, 2 / 5, 8 / 5⟩] ∧
      result.totalNationalJobs = ⟨-15, 89 / 10, 168 / 5⟩ := by
  have facts : (decompose Settings.standard.workforce mixedJobs mixedInputs
      ⟨.nil, .nil, .unconstrained⟩).toOption.any (fun result =>
        decide (result.occupations.map (·.jobs) = [25, 75, -40, 0, 8]) &&
        decide (result.sectors.map (·.nationalJobs) =
          [⟨25, 85 / 2, 60⟩, ⟨-40, -34, -28⟩, ⟨0, 0, 0⟩, ⟨0, 2 / 5, 8 / 5⟩]) &&
        decide (result.totalNationalJobs = ⟨-15, 89 / 10, 168 / 5⟩)) = true := by
    decide +kernel
  obtain ⟨result, ok, values⟩ := (Outcome.any_ok_iff _ _).mp facts
  simp only [Bool.and_eq_true, decide_eq_true_iff] at values
  have distinct : (mixedJobs.entries.map (·.1)).Nodup := by decide
  obtain ⟨sectors, -⟩ := decomposition_adds_up _ _ _ _ result distinct ok
  exact ⟨result, ok, distinct, sectors, values.1.1, values.1.2, values.2⟩

end Workforce

end EconomicImpact
