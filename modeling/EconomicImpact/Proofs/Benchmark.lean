import Mathlib
import EconomicImpact.Proofs.OrderedMap
import EconomicImpact.Proofs.Scalar.Exact
import EconomicImpact.Record.Benchmark

set_option autoImplicit false

namespace EconomicImpact

noncomputable instance : SquareRoot ℝ := ⟨Real.sqrt⟩

def sideWarning (heading : String) (codes : List String) : List String :=
  if codes = [] then [] else [heading ++ Text.quotedList codes]

structure SectorComparison.Compares (c : SectorComparison ℝ)
    (own reference : OrderedMap String ℝ) (tolerance : ℝ) : Prop where
  computed_value : own.get? c.sectorCode = some c.computed
  reference_value : reference.get? c.sectorCode = some c.benchmark
  difference : c.absoluteDiff = c.computed - c.benchmark
  relative : c.relativeDiff =
    if |c.benchmark| < 1 / 10 ^ 12 then 0 else c.absoluteDiff / c.benchmark
  within_iff : c.withinTolerance = true ↔ |c.relativeDiff| ≤ tolerance

theorem SectorComparison.Compares.with_itself {c : SectorComparison ℝ}
    {own : OrderedMap String ℝ} {tolerance : ℝ} (compares : c.Compares own own tolerance) :
    c.absoluteDiff = 0 ∧ c.relativeDiff = 0 := by
  have equal : c.computed = c.benchmark :=
    Option.some.inj (compares.computed_value.symm.trans compares.reference_value)
  have none : c.absoluteDiff = 0 := by rw [compares.difference, equal, sub_self]
  exact ⟨none, by rw [compares.relative, none, zero_div, ite_self]⟩

structure BenchmarkReport.Reports (r : BenchmarkReport ℝ) (own reference : OrderedMap String ℝ)
    (tolerance : ℝ) : Prop where
  once : ∀ code,
    (r.comparisons.map (·.sectorCode) ++ r.onlyComputed ++ r.onlyBenchmark).count code =
      if code ∈ own.keys ∨ code ∈ reference.keys then 1 else 0
  compared_iff : ∀ code, code ∈ r.comparisons.map (·.sectorCode) ↔
    code ∈ own.keys ∧ code ∈ reference.keys
  only_computed_iff : ∀ code, code ∈ r.onlyComputed ↔ code ∈ own.keys ∧ code ∉ reference.keys
  only_reference_iff : ∀ code, code ∈ r.onlyBenchmark ↔ code ∈ reference.keys ∧ code ∉ own.keys
  sorted : (r.comparisons.map (·.sectorCode)).Pairwise (· < ·)
  warned : r.warnings =
    sideWarning "Sectors in computed but not benchmark: " r.onlyComputed ++
      sideWarning "Sectors in benchmark but not computed: " r.onlyBenchmark
  compares : ∀ c ∈ r.comparisons, c.Compares own reference tolerance
  outside_eq : r.outside = r.comparisons.countP (!·.withinTolerance)
  counted : r.within + r.outside = r.comparisons.length
  largest : ∀ bound, r.maxRelativeDiff ≤ bound ↔
    0 ≤ bound ∧ ∀ c ∈ r.comparisons, |c.relativeDiff| ≤ bound
  passes_iff : r.passes = true ↔
    (∃ code, code ∈ own.keys ∧ code ∈ reference.keys) ∧ r.maxRelativeDiff ≤ tolerance
  mae_nonneg : 0 ≤ r.mae
  mae_le_rmse : r.mae ≤ r.rmse
  rmse_le_largest : r.rmse ≤ Scalar.greatest (r.comparisons.map fun c => |c.absoluteDiff|)

namespace BenchmarkReport

variable (r : BenchmarkReport ℝ)

theorem passes_iff_each :
    r.passes = true ↔ 0 < r.comparisons.length ∧
      ∀ c ∈ r.comparisons, c.withinTolerance = true := by
  rw [passes, Bool.and_eq_true, decide_eq_true_iff, decide_eq_true_iff, within,
    List.countP_eq_length]

theorem outside_eq_count : r.outside = r.comparisons.countP (!·.withinTolerance) := by
  have split := List.length_eq_countP_add_countP (·.withinTolerance) (l := r.comparisons)
  rw [outside, within, split, Nat.add_sub_cancel_left]
  exact List.countP_congr fun c _ => by simp

end BenchmarkReport

namespace Benchmark

section means

variable (errors : List ℝ)

-- Without numbers both means are zero, as is the quotient by zero.
theorem mean_absolute_eq : meanAbsolute errors = (errors.map (|·|)).sum / errors.length := by
  unfold meanAbsolute
  cases errors with
  | nil => simp
  | cons e rest =>
      simp only [List.isEmpty_cons, Bool.false_eq_true, if_false, Scalar.total_eq_sum]
      rfl

theorem root_mean_square_eq :
    rootMeanSquare errors = √((errors.map (· ^ 2)).sum / errors.length) := by
  unfold rootMeanSquare
  cases errors with
  | nil => simp
  | cons e rest =>
      simp only [List.isEmpty_cons, Bool.false_eq_true, if_false, Scalar.total_eq_sum, ← sq]
      rfl

theorem mean_absolute_nonneg : 0 ≤ meanAbsolute errors := by
  rw [mean_absolute_eq]
  refine div_nonneg (List.sum_nonneg ?_) (Nat.cast_nonneg _)
  rw [List.forall_mem_map]
  exact fun e _ => abs_nonneg e

theorem mean_absolute_le_root_mean_square : meanAbsolute errors ≤ rootMeanSquare errors := by
  rw [mean_absolute_eq, root_mean_square_eq]
  refine Real.le_sqrt_of_sq_le ?_
  have chebyshev := sum_div_card_sq_le_sum_sq_div_card
    (s := (Finset.univ : Finset (Fin errors.length))) (f := fun i => |errors[i.1]|)
  simp only [sq_abs, Finset.card_univ, Fintype.card_fin] at chebyshev
  rwa [Fin.sum_univ_fun_getElem errors (|·|), Fin.sum_univ_fun_getElem errors (· ^ 2)] at chebyshev

theorem root_mean_square_le_greatest :
    rootMeanSquare errors ≤ Scalar.greatest (errors.map (|·|)) := by
  obtain ⟨nonneg, each⟩ := (Scalar.greatest_le_iff (errors.map (|·|)) _).mp le_rfl
  rw [List.forall_mem_map] at each
  generalize Scalar.greatest (errors.map (|·|)) = largest at nonneg each ⊢
  have squares : (errors.map (· ^ 2)).sum ≤ errors.length * largest ^ 2 := by
    have bounded := List.sum_le_card_nsmul (errors.map (· ^ 2)) (largest ^ 2) (by
      rw [List.forall_mem_map]
      exact fun e listed => sq_le_sq' (abs_le.mp (each e listed)).1 (abs_le.mp (each e listed)).2)
    simpa using bounded
  rw [root_mean_square_eq, Real.sqrt_le_left nonneg]
  exact div_le_of_le_mul₀ (Nat.cast_nonneg _) (sq_nonneg _) (by rwa [mul_comm] at squares)

theorem mean_absolute_neg : meanAbsolute (errors.map (-·)) = meanAbsolute errors := by
  simp [mean_absolute_eq, Function.comp_def]

theorem root_mean_square_neg : rootMeanSquare (errors.map (-·)) = rootMeanSquare errors := by
  simp [root_mean_square_eq, Function.comp_def]

end means

section comparisons

variable (own reference : OrderedMap String ℝ) (tolerance : ℝ)

def commonCodes (own reference : OrderedMap String ℝ) : List String :=
  own.keys.filter (reference.contains ·)

theorem mem_common_codes_iff (own reference : OrderedMap String ℝ) (code : String) :
    code ∈ commonCodes own reference ↔ code ∈ own.keys ∧ code ∈ reference.keys := by
  rw [commonCodes, List.mem_filter, OrderedMap.contains_iff]

def difference (own reference : OrderedMap String ℝ) (code : String) : ℝ :=
  (own.get? code).getD 0 - (reference.get? code).getD 0

theorem common_codes_ascending : (commonCodes own reference).Pairwise (· < ·) :=
  own.ascending.filter _

theorem common_codes_comm : commonCodes own reference = commonCodes reference own := by
  have left : (commonCodes own reference).Pairwise (· < ·) := common_codes_ascending own reference
  have right : (commonCodes reference own).Pairwise (· < ·) := common_codes_ascending reference own
  have members (code : String) :
      code ∈ commonCodes own reference ↔ code ∈ commonCodes reference own := by
    rw [mem_common_codes_iff, mem_common_codes_iff, and_comm]
  have perm := (List.perm_ext_iff_of_nodup left.nodup right.nodup).mpr members
  exact perm.eq_of_pairwise (fun a b _ _ before after => absurd after before.asymm) left right

theorem comparisons_eq : comparisons own reference tolerance =
    (commonCodes own reference).map fun code =>
      compare tolerance code ((own.get? code).getD 0) ((reference.get? code).getD 0) := by
  rw [commonCodes, OrderedMap.keys, List.filter_map, List.map_map, ← List.filterMap_eq_map,
    List.filterMap_filter]
  apply List.filterMap_congr
  rintro ⟨code, value⟩ listed
  have found : own.get? code = some value := (OrderedMap.get_eq_some_iff _ _).mpr listed
  cases given : reference.get? code with
  | none =>
      have absent : ¬reference.contains code = true := by
        rw [OrderedMap.contains_iff, ← OrderedMap.get_is_some_iff, given]
        exact Bool.false_ne_true
      simp [given, absent]
  | some referenceValue =>
      have held : reference.contains code = true := by
        rw [OrderedMap.contains_iff, ← OrderedMap.get_is_some_iff, given]
        rfl
      simp [given, held, found]

theorem comparison_codes :
    (comparisons own reference tolerance).map (·.sectorCode) = commonCodes own reference := by
  rw [comparisons_eq, List.map_map]
  exact List.map_id _

theorem comparison_differences : (comparisons own reference tolerance).map (·.absoluteDiff) =
    (commonCodes own reference).map (difference own reference) := by
  rw [comparisons_eq, List.map_map]
  rfl

theorem comparison_differences_swap :
    (comparisons reference own tolerance).map (·.absoluteDiff) =
      ((comparisons own reference tolerance).map (·.absoluteDiff)).map (-·) := by
  rw [comparison_differences, comparison_differences, List.map_map,
    common_codes_comm reference own]
  exact List.map_congr_left fun code _ => (neg_sub _ _).symm

theorem comparison_compares (c : SectorComparison ℝ)
    (listed : c ∈ comparisons own reference tolerance) : c.Compares own reference tolerance := by
  rw [comparisons_eq] at listed
  obtain ⟨code, common, rfl⟩ := List.mem_map.mp listed
  have held (m : OrderedMap String ℝ) (key : code ∈ m.keys) :
      m.get? code = some ((m.get? code).getD 0) := by
    obtain ⟨value, found⟩ := Option.isSome_iff_exists.mp ((m.get_is_some_iff code).mpr key)
    rw [found, Option.getD_some]
  obtain ⟨inOwn, inReference⟩ := (mem_common_codes_iff own reference code).mp common
  have tiny : (Scalar.ratio 1 (Nat.pow 10 12) : ℝ) = 1 / 10 ^ 12 := by norm_num [Scalar.ratio]
  exact {
    computed_value := held own inOwn
    reference_value := held reference inReference
    difference := rfl
    relative := by simp only [compare, tiny, Scalar.abs_exact]
    within_iff := by simp [compare] }

end comparisons

theorem mem_only_iff (own reference : OrderedMap String ℝ) (code : String) :
    code ∈ own.keys.filter (!reference.contains ·) ↔ code ∈ own.keys ∧ code ∉ reference.keys := by
  rw [List.mem_filter, Bool.not_eq_true', Bool.eq_false_iff, ne_eq, OrderedMap.contains_iff]

section report

variable (own reference : OrderedMap String ℝ) {tolerance : ℝ}

theorem sectors_once (code : String) :
    (commonCodes own reference ++ own.keys.filter (!reference.contains ·) ++
        reference.keys.filter (!own.contains ·)).count code =
      if code ∈ own.keys ∨ code ∈ reference.keys then 1 else 0 := by
  have once : (commonCodes own reference ++ own.keys.filter (!reference.contains ·) ++
      reference.keys.filter (!own.contains ·)).Nodup := by
    refine List.nodup_append.mpr ⟨List.nodup_append.mpr ⟨own.keys_nodup.filter _,
      own.keys_nodup.filter _, ?_⟩, reference.keys_nodup.filter _, ?_⟩
    · rintro a common _ only rfl
      exact ((mem_only_iff own reference a).mp only).2
        ((mem_common_codes_iff own reference a).mp common).2
    · rintro a listed _ only rfl
      have absent := ((mem_only_iff reference own a).mp only).2
      rcases List.mem_append.mp listed with common | ownOnly
      · exact absent ((mem_common_codes_iff own reference a).mp common).1
      · exact absent ((mem_only_iff own reference a).mp ownOnly).1
  have members : code ∈ commonCodes own reference ++ own.keys.filter (!reference.contains ·) ++
      reference.keys.filter (!own.contains ·) ↔ code ∈ own.keys ∨ code ∈ reference.keys := by
    rw [List.mem_append, List.mem_append, mem_common_codes_iff, mem_only_iff, mem_only_iff]
    tauto
  rw [once.count]
  exact if_congr members rfl rfl

theorem validate_reports (nonneg : 0 ≤ tolerance) :
    (validate own reference tolerance).Reports own reference tolerance := by
  have codes : (comparisons own reference tolerance).map (·.sectorCode) =
      commonCodes own reference := comparison_codes own reference tolerance
  have compares : ∀ c ∈ comparisons own reference tolerance, c.Compares own reference tolerance :=
    comparison_compares own reference tolerance
  have largest (bound : ℝ) : (validate own reference tolerance).maxRelativeDiff ≤ bound ↔
      0 ≤ bound ∧ ∀ c ∈ comparisons own reference tolerance, |c.relativeDiff| ≤ bound := by
    rw [validate, Scalar.greatest_le_iff, List.forall_mem_map]
    rfl
  have verdict : (validate own reference tolerance).passes = true ↔
      (∃ code, code ∈ own.keys ∧ code ∈ reference.keys) ∧
        (validate own reference tolerance).maxRelativeDiff ≤ tolerance := by
    rw [BenchmarkReport.passes_iff_each, largest, and_iff_right nonneg]
    refine and_congr ?_ (forall₂_congr fun c listed => (compares c listed).within_iff)
    simp only [← mem_common_codes_iff, ← List.length_pos_iff_exists_mem, ← codes, List.length_map]
    rfl
  exact {
    once := fun code => by
      rw [← sectors_once own reference code, ← codes]
      rfl
    compared_iff := fun code => by
      rw [← mem_common_codes_iff, ← codes]
      rfl
    only_computed_iff := mem_only_iff own reference
    only_reference_iff := mem_only_iff reference own
    sorted := by
      change ((comparisons own reference tolerance).map (·.sectorCode)).Pairwise (· < ·)
      rw [codes]
      exact common_codes_ascending own reference
    warned := by simp only [BenchmarkReport.warnings, sideWarning, List.isEmpty_iff]
    compares := compares
    outside_eq := BenchmarkReport.outside_eq_count _
    counted := Nat.add_sub_cancel' List.countP_le_length
    largest := largest
    passes_iff := verdict
    mae_nonneg := mean_absolute_nonneg _
    mae_le_rmse := mean_absolute_le_root_mean_square _
    rmse_le_largest := by
      have bound := root_mean_square_le_greatest
        ((comparisons own reference tolerance).map (·.absoluteDiff))
      rwa [List.map_map] at bound }

theorem swapped_errors (tolerance : ℝ) :
    (validate reference own tolerance).rmse = (validate own reference tolerance).rmse ∧
      (validate reference own tolerance).mae = (validate own reference tolerance).mae := by
  have swap := comparison_differences_swap own reference tolerance
  constructor
  · exact (congrArg rootMeanSquare swap).trans (root_mean_square_neg _)
  · exact (congrArg meanAbsolute swap).trans (mean_absolute_neg _)

end report

theorem validate_self (own : OrderedMap String ℝ) {tolerance : ℝ}
    (nonneg : 0 ≤ tolerance) (some_sector : own.keys ≠ []) :
    (validate own own tolerance).passes = true ∧ (validate own own tolerance).rmse = 0 ∧
      (validate own own tolerance).mae = 0 ∧ (validate own own tolerance).maxRelativeDiff = 0 := by
  have reports := validate_reports own own nonneg
  have same : ∀ c ∈ (validate own own tolerance).comparisons,
      c.absoluteDiff = 0 ∧ c.relativeDiff = 0 :=
    fun c listed => (reports.compares c listed).with_itself
  have no_error : Scalar.greatest
      ((validate own own tolerance).comparisons.map fun c => |c.absoluteDiff|) ≤ 0 := by
    rw [Scalar.greatest_le_iff, List.forall_mem_map]
    exact ⟨le_rfl, fun c listed => by rw [(same c listed).1, abs_zero]⟩
  have rmse := reports.rmse_le_largest.trans no_error
  have largest : (validate own own tolerance).maxRelativeDiff ≤ 0 :=
    (reports.largest 0).mpr
      ⟨le_rfl, fun c listed => by rw [(same c listed).2, abs_zero]⟩
  have zero_le_largest := ((reports.largest _).mp le_rfl).1
  obtain ⟨code, listed⟩ := List.exists_mem_of_ne_nil _ some_sector
  refine ⟨reports.passes_iff.mpr ⟨⟨code, listed, listed⟩, largest.trans nonneg⟩, ?_, ?_, ?_⟩
  · exact le_antisymm rmse (reports.mae_nonneg.trans reports.mae_le_rmse)
  · exact le_antisymm (reports.mae_le_rmse.trans rmse) reports.mae_nonneg
  · exact le_antisymm largest zero_le_largest

theorem benchmark_reported_exactly (own reference : OrderedMap String ℝ) {tolerance : ℝ}
    (nonneg : 0 ≤ tolerance) :
    (validate own reference tolerance).Reports own reference tolerance ∧
      (validate reference own tolerance).rmse = (validate own reference tolerance).rmse ∧
      (validate reference own tolerance).mae = (validate own reference tolerance).mae ∧
      (own.keys ≠ [] → (validate own own tolerance).passes = true ∧
        (validate own own tolerance).rmse = 0 ∧ (validate own own tolerance).mae = 0 ∧
          (validate own own tolerance).maxRelativeDiff = 0) := by
  obtain ⟨rmse, mae⟩ := swapped_errors own reference tolerance
  exact ⟨validate_reports own reference nonneg, rmse, mae, validate_self own nonneg⟩

noncomputable def sampleMultipliers : OrderedMap String ℝ :=
  .ofList [("A", 3), ("B", 7 / 10), ("C", 1)]

noncomputable def sampleReference : OrderedMap String ℝ :=
  .ofList [("A", 2), ("B", 0), ("D", 4)]

theorem sample_reported :
    (0 : ℝ) ≤ 1 / 2 ∧
      (validate sampleMultipliers sampleReference (1 / 2)).Reports sampleMultipliers
        sampleReference (1 / 2) ∧
      (validate sampleMultipliers sampleReference (1 / 2)).passes = true ∧
      (validate sampleReference sampleMultipliers (1 / 2)).mae = 17 / 20 ∧
      (validate sampleMultipliers sampleMultipliers (1 / 2)).passes = true := by
  have own : sampleMultipliers.entries = [("A", 3), ("B", 7 / 10), ("C", 1)] :=
    OrderedMap.of_list_entries _ (by decide)
  have reference : sampleReference.entries = [("A", 2), ("B", 0), ("D", 4)] :=
    OrderedMap.of_list_entries _ (by decide)
  have nonneg : (0 : ℝ) ≤ 1 / 2 := by norm_num
  have compared : comparisons sampleMultipliers sampleReference (1 / 2) =
      [⟨"A", 3, 2, 1, 1 / 2, true⟩, ⟨"B", 7 / 10, 0, 7 / 10, 0, true⟩] := by
    simp [comparisons, own, reference, OrderedMap.get?, compare, Scalar.ratio]
    norm_num
  obtain ⟨reports, -, mae, itself⟩ := benchmark_reported_exactly sampleMultipliers sampleReference nonneg
  refine ⟨nonneg, reports, ?_, ?_, (itself (by simp [OrderedMap.keys, own])).1⟩
  · rw [BenchmarkReport.passes_iff_each, validate, compared]
    simp
  · rw [mae, validate, compared]
    norm_num [meanAbsolute]

end Benchmark

end EconomicImpact
