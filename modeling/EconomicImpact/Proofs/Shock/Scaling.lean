import Mathlib
import EconomicImpact.Proofs.Shock.Phased

set_option autoImplicit false

namespace EconomicImpact

variable {K : Type} [Field K] [LinearOrder K] {m n : Nat}

theorem Scalar.total_scaled (values : List K) (factor : K) :
    total (values.map (· * factor)) = total values * factor := by
  rw [total_eq_sum, total_eq_sum, List.sum_map_mul_right, List.map_id']

theorem scaled_get (v : Vector K n) (factor : K) (i : Fin n) :
    (v.map (· * factor)).get i = v.get i * factor := by
  simp only [Vector.get_eq_getElem, Vector.getElem_map]

theorem scaled_zeros (factor : K) :
    (Vector.replicate n (0 : K)).map (· * factor) = Vector.replicate n 0 := by
  rw [Vector.map_replicate, zero_mul]

theorem zip_with_scaled (op : K → K → K) (factor : K)
    (each : ∀ a b, op (a * factor) (b * factor) = op a b * factor) (v w : Vector K n) :
    (v.map (· * factor)).zipWith op (w.map (· * factor)) = (v.zipWith op w).map (· * factor) :=
  Vector.ext fun i inside => by simp only [Vector.getElem_zipWith, Vector.getElem_map, each]

theorem Table.apply_scaled (t : Table K m n) (v : Vector K n) (factor : K) :
    t.apply (v.map (· * factor)) = (t.apply v).map (· * factor) := by
  have scaled : (v.map (· * factor)).get = MulOpposite.op factor • v.get :=
    funext (scaled_get v factor)
  refine vector_ext_get fun i => ?_
  rw [scaled_get, apply_get, apply_get, scaled, Matrix.mulVec_smul]
  rfl

namespace SectorVector

theorem align_sparse_scaled (v : SectorVector K) (order : Vector String n) (factor : K) :
    (v.scale factor).alignSparse order = (v.alignSparse order).map (·.map (· * factor)) := by
  unfold alignSparse
  -- Sectors without a value count as zero, which is zero under the factor as well.
  conv_lhs => rw [← scaled_zeros factor]
  refine Outcome.foldlM_carried_image _ _ (fun entry => (entry.1, entry.2 * factor)) _
    (fun start entry => ?_) v.entries _
  obtain ⟨code, value⟩ := entry
  dsimp only
  cases position? order code with
  | none => rfl
  | some i => exact congrArg Except.ok Vector.map_set.symm

theorem of_zip_scaled (codes : List String) (values : List K) (factor : K) :
    ofZip codes (values.map (· * factor)) = (ofZip codes values).scale factor :=
  congrArg SectorVector.mk (List.zip_map_right ..)

theorem total_scaled (v : SectorVector K) (factor : K) :
    (v.scale factor).total = v.total * factor := by
  have values : (v.scale factor).entries.map (·.2) = (v.entries.map (·.2)).map (· * factor) := by
    simp only [scale, map, List.map_map]
    rfl
  rw [total, values, Scalar.total_scaled, total]

end SectorVector

namespace Shock

theorem align_scaled (shock : Shock K) (order : Vector String n) (factor : K) :
    (shock.map (· * factor)).align order = (shock.align order).map (·.map (· * factor)) := by
  cases shock with
  | keyed v => exact v.align_sparse_scaled order factor
  | positional values =>
      by_cases fits : values.length = n <;> simp [map, align, fits, Except.map]

theorem resolve_eq_align (shock : Shock K) (order : Vector String n) :
    shock.resolve order = shock.align order := by
  unfold resolve
  cases shock.align order with
  | error fault => rfl
  | ok values =>
      have finite : (values.toList.any fun v => !Scalar.isFinite v) = false :=
        List.any_eq_false.mpr fun v _ => by simp
      simp only [bind, Except.bind, finite]
      rfl

end Shock

namespace Schedule

theorem real_shock_scaled (s : Schedule K) (factor : K) (order : Vector String n) (year : Int)
    (shock : Shock K) :
    (s.scaled factor).realShock order year (shock.map (· * factor)) =
      (s.realShock order year shock).map (·.map (· * factor)) := by
  have deflated (deflator : K) (v : Vector K n) :
      (v.map (· * factor)).map (· / deflator) = (v.map (· / deflator)).map (· * factor) := by
    simp only [Vector.map_map, Function.comp_def, mul_div_right_comm]
  have deflators : (s.scaled factor).deflators = s.deflators := rfl
  unfold realShock
  rw [deflators, Shock.resolve_eq_align, Shock.resolve_eq_align, Shock.align_scaled]
  dsimp only
  generalize (s.deflators.get? year).getD 1 = deflator
  cases Scalar.isFinite deflator && decide (0 < deflator) with
  | false => rfl
  | true =>
      cases shock.align order with
      | error fault => rfl
      | ok values => exact congrArg Except.ok (deflated _ values)

-- The sum so far carries the factor as well.
theorem running_sums_scaled (start : Vector K n) (entries : List (Int × Vector K n)) (factor : K) :
    runningSums (start.map (· * factor))
        (entries.map fun entry => (entry.1, entry.2.map (· * factor))) =
      (runningSums start entries).map fun entry => (entry.1, entry.2.map (· * factor)) := by
  induction entries generalizing start with
  | nil => rfl
  | cons entry rest ih =>
      have sum := zip_with_scaled (· + ·) factor (fun a b => (add_mul a b factor).symm) start entry.2
      rw [List.map_cons, runningSums, sum, ih, runningSums, List.map_cons]

theorem effective_shocks_scaled (s : Schedule K) (factor : K) (order : Vector String n)
    (mode : ShockMode) :
    (s.scaled factor).effectiveShocks order mode =
      (s.effectiveShocks order mode).map
        (List.map fun entry => (entry.1, entry.2.map (· * factor))) := by
  have real : (s.scaled factor).effectiveShocks order .perYear =
      (s.effectiveShocks order .perYear).map
        (List.map fun entry => (entry.1, entry.2.map (· * factor))) := by
    rw [effective_shocks_per_year, effective_shocks_per_year]
    refine Outcome.mapM_carried_image _ _ _ _ (fun entry => ?_) s.shocks.entries
    rw [real_shock_scaled, Outcome.bind_map, Outcome.map_bind]
    rfl
  cases mode with
  | perYear => exact real
  | cumulative =>
      rw [effective_shocks_cumulative, effective_shocks_cumulative, real]
      cases s.effectiveShocks order .perYear with
      | error fault => rfl
      | ok shocks =>
          have sums := running_sums_scaled (Vector.replicate n 0) shocks factor
          rw [scaled_zeros] at sums
          exact congrArg Except.ok sums

end Schedule

def Impact.scaled (impact : Impact K) (factor : K) : Impact K where
  deltaX := impact.deltaX.scale factor
  direct := impact.direct.scale factor
  indirect := impact.indirect.scale factor

theorem SquareTable.impact_scaled (inverse : SquareTable K) (codes : List String) (shock : List K)
    (factor : K) :
    inverse.impact codes (shock.map (· * factor)) =
      (inverse.impact codes shock).map (·.scaled factor) := by
  have ripple := zip_with_scaled (n := inverse.size) (· - ·) factor
    fun a b => (sub_mul a b factor).symm
  unfold impact
  by_cases fits : shock.length = inverse.size
  · have demand :
        (⟨(shock.map (· * factor)).toArray, by simpa using fits⟩ : Vector K inverse.size) =
          (⟨shock.toArray, by simpa using fits⟩ : Vector K inverse.size).map (· * factor) := by
      simp
    rw [dif_pos fits, dif_pos (by simpa using fits)]
    simp only [demand, Table.apply_scaled, ripple, Vector.toList_map, SectorVector.of_zip_scaled]
    rfl
  · rw [dif_neg fits, dif_neg (by simpa using fits), List.length_map]
    rfl

namespace Phased

theorem peak_scaled [IsStrictOrderedRing K] (totals : List (Int × K)) (factor : K)
    (positive : 0 < factor) :
    peak? (totals.map fun p => (p.1, p.2 * factor)) =
      (peak? totals).map fun p => (p.1, p.2 * factor) := by
  cases totals with
  | nil => rfl
  | cons first rest =>
      refine congrArg some ?_
      induction rest generalizing first with
      | nil => rfl
      | cons p rest ih =>
          simp only [List.map_cons, List.foldl_cons, mul_lt_mul_iff_left₀ positive] at ih ⊢
          by_cases larger : first.2 < p.2
          · rw [if_pos larger, if_pos larger]
            exact ih p
          · rw [if_neg larger, if_neg larger]
            exact ih first

theorem peak_level (totals : List (Int × K)) (level : K) (same : ∀ p ∈ totals, p.2 = level) :
    peak? totals = totals.head? := by
  cases totals with
  | nil => rfl
  | cons first rest =>
      obtain ⟨start, others⟩ := List.forall_mem_cons.mp same
      refine congrArg some (List.foldlRecOn (motive := (· = first)) rest _ rfl ?_)
      intro best chosen p member
      rw [chosen, start, others p member, if_neg (lt_irrefl level)]

theorem solve_peak_year {inverse : SquareTable K} {codes : Vector String n} {mode : ShockMode}
    {shocks : List (Int × Vector K n)} {phased : Phased K}
    (ascending : (shocks.map (·.1)).Pairwise (· < ·))
    (solved : solve inverse codes mode shocks = .ok phased) :
    phased.peakYear = (peak? phased.annualTotals).map (·.1) := by
  obtain ⟨annual, mapped, same⟩ := (Outcome.bind_ok_iff _ _ _).mp solved
  cases (Outcome.pure_ok_iff _ _).mp same
  have years : (annual.map (·.1)).Pairwise (· < ·) := Outcome.mapM_keyed_keys mapped ▸ ascending
  rw [annualTotals, OrderedMap.of_list_entries annual years]

theorem solve_scaled {inverse : SquareTable K} {codes : Vector String n} {mode : ShockMode}
    {shocks : List (Int × Vector K n)} {phased : Phased K}
    (solved : solve inverse codes mode shocks = .ok phased) (factor : K) :
    ∃ scaled, solve inverse codes mode
        (shocks.map fun entry => (entry.1, entry.2.map (· * factor))) = .ok scaled ∧
      scaled.annual = phased.annual.map (·.scaled factor) := by
  obtain ⟨annual, mapped, same⟩ := (Outcome.bind_ok_iff _ _ _).mp solved
  cases (Outcome.pure_ok_iff _ _).mp same
  let step (entry : Int × Vector K n) : Except (Fault K) (Int × Impact K) := do
    return (entry.1, ← inverse.impact codes.toList entry.2.toList)
  have images := Outcome.mapM_carried_image step step
    (fun entry => (entry.1, entry.2.map (· * factor)))
    (fun entry => (entry.1, entry.2.scaled factor)) (fun entry => by
      dsimp only [step]
      rw [Vector.toList_map, SquareTable.impact_scaled, Outcome.bind_map, Outcome.map_bind]
      rfl) shocks
  rw [mapped] at images
  exact ⟨_, congrArg (· >>= _) images, OrderedMap.of_list_map (·.scaled factor) annual⟩

theorem scaled_totals {phased scaled : Phased K} {factor : K}
    (annual : scaled.annual = phased.annual.map (·.scaled factor)) :
    scaled.annualTotals = phased.annualTotals.map fun p => (p.1, p.2 * factor) := by
  simp only [annualTotals, annual, OrderedMap.map, List.map_map, Function.comp_def, Impact.scaled,
    SectorVector.total_scaled]

theorem scaled_peak_year [IsStrictOrderedRing K] {phased scaled : Phased K} {factor : K}
    (annual : scaled.annual = phased.annual.map (·.scaled factor))
    (peak : phased.peakYear = (peak? phased.annualTotals).map (·.1))
    (peakScaled : scaled.peakYear = (peak? scaled.annualTotals).map (·.1)) :
    (0 < factor → scaled.peakYear = phased.peakYear) ∧
      (factor = 0 → scaled.peakYear = phased.annual.keys.head?) := by
  rw [peakScaled, scaled_totals annual, peak]
  constructor
  · intro positive
    rw [peak_scaled _ _ positive, Option.map_map]
    rfl
  · rintro rfl
    have level : ∀ p ∈ phased.annualTotals.map fun p => (p.1, p.2 * 0), p.2 = 0 := by
      intro p member
      obtain ⟨q, -, rfl⟩ := List.mem_map.mp member
      exact mul_zero q.2
    rw [peak_level _ 0 level, ← List.head?_map, List.map_map, annualTotals, List.map_map]
    rfl

end Phased

end EconomicImpact
