import Mathlib
import EconomicImpact.Proofs.OrderedMap
import EconomicImpact.Proofs.SectorVector
import EconomicImpact.Proofs.Table.Matrix
import EconomicImpact.Record.Shock

set_option autoImplicit false

namespace EconomicImpact

variable {K : Type} [Field K] [LinearOrder K] {m n : Nat}

def vectorTotal (vectors : List (Vector K n)) : Vector K n :=
  Vector.ofFn fun i => (vectors.map (·.get i)).sum

def totalUpTo (entries : List (Int × Vector K n)) (year : Int) : Vector K n :=
  vectorTotal ((entries.filter (·.1 ≤ year)).map (·.2))

theorem vector_total_nil_get : (vectorTotal ([] : List (Vector K n))).get = 0 := by
  funext i
  simp [vectorTotal]

theorem vector_total_cons_get (v : Vector K n) (rest : List (Vector K n)) :
    (vectorTotal (v :: rest)).get = v.get + (vectorTotal rest).get := by
  funext i
  simp [vectorTotal]

theorem Table.apply_vector_total (t : Table K m n) (vectors : List (Vector K n)) :
    t.apply (vectorTotal vectors) = vectorTotal (vectors.map t.apply) := by
  refine vector_ext_get fun i => ?_
  rw [apply_get]
  induction vectors with
  | nil =>
      rw [vector_total_nil_get, Matrix.mulVec_zero, List.map_nil, vector_total_nil_get]
  | cons v rest ih =>
      rw [vector_total_cons_get, Matrix.mulVec_add, List.map_cons, vector_total_cons_get,
        Pi.add_apply, Pi.add_apply, ih, apply_get]

theorem total_up_to_apply (t : Table K m n) (entries : List (Int × Vector K n)) (year : Int) :
    t.apply (totalUpTo entries year) =
      totalUpTo (entries.map fun entry => (entry.1, t.apply entry.2)) year := by
  rw [totalUpTo, Table.apply_vector_total, totalUpTo, List.filter_map, List.map_map, List.map_map]
  rfl

theorem total_up_to_below (entries : List (Int × Vector K n)) (year : Int)
    (later : ∀ entry ∈ entries, year < entry.1) : (totalUpTo entries year).get = 0 := by
  have none : entries.filter (·.1 ≤ year) = [] := by
    rw [List.filter_eq_nil_iff]
    intro entry member
    simpa using later entry member
  rw [totalUpTo, none]
  exact vector_total_nil_get

theorem total_up_to_end (entries : List (Int × Vector K n)) (year : Int)
    (within : ∀ entry ∈ entries, entry.1 ≤ year) :
    totalUpTo entries year = vectorTotal (entries.map (·.2)) := by
  have all : entries.filter (·.1 ≤ year) = entries := by
    rw [List.filter_eq_self]
    intro entry member
    exact decide_eq_true (within entry member)
  rw [totalUpTo, all]

theorem total_up_to_cons (entry : Int × Vector K n) (rest : List (Int × Vector K n)) (year : Int)
    (counted : entry.1 ≤ year) :
    (totalUpTo (entry :: rest) year).get = entry.2.get + (totalUpTo rest year).get := by
  have kept : (entry :: rest).filter (·.1 ≤ year) = entry :: rest.filter (·.1 ≤ year) :=
    List.filter_cons_of_pos (decide_eq_true counted)
  rw [totalUpTo, kept, List.map_cons, vector_total_cons_get, ← totalUpTo]

theorem years_of_dated {α β : Type} (entries : List (Int × α)) (image : Int × α → β) :
    (entries.map fun entry => (entry.1, image entry)).map (·.1) = entries.map (·.1) := by
  rw [List.map_map]
  rfl

theorem sum_get (v w : Vector K n) : (v.zipWith (· + ·) w).get = v.get + w.get := by
  funext i
  simp [Vector.get_eq_getElem]

theorem sum_from_zero (v : Vector K n) : (Vector.replicate n 0).zipWith (· + ·) v = v :=
  vector_ext_get fun i => by simp [Vector.get_eq_getElem]

namespace Schedule

theorem running_sums_eq (start : Vector K n) (entries : List (Int × Vector K n))
    (ascending : (entries.map (·.1)).Pairwise (· < ·)) :
    runningSums start entries = entries.map fun entry =>
      (entry.1, start.zipWith (· + ·) (totalUpTo entries entry.1)) := by
  induction entries generalizing start with
  | nil => rfl
  | cons entry rest ih =>
      obtain ⟨year, v⟩ := entry
      obtain ⟨above, later⟩ := List.pairwise_cons.mp ascending
      have after : ∀ next ∈ rest, year < next.1 := fun next member =>
        above next.1 (List.mem_map_of_mem member)
      rw [runningSums, ih _ later, List.map_cons]
      congr 1
      · have own : totalUpTo ((year, v) :: rest) year = v := by
          refine vector_ext_get fun i => ?_
          rw [total_up_to_cons _ _ _ (le_refl year), total_up_to_below rest year after, add_zero]
        rw [own]
      · refine List.map_congr_left fun next member => Prod.ext rfl (vector_ext_get (congrFun ?_))
        have counted : year ≤ next.1 := (after next member).le
        rw [sum_get, sum_get, sum_get, total_up_to_cons (year, v) rest next.1 counted, add_assoc]

theorem effective_shocks_per_year {α : Type} [Scalar α] (schedule : Schedule α)
    (order : Vector String n) :
    schedule.effectiveShocks order .perYear =
      schedule.shocks.entries.mapM fun entry => do
        return (entry.1, ← schedule.realShock order entry.1 entry.2) :=
  bind_pure _

theorem effective_shocks_cumulative {α : Type} [Scalar α] (schedule : Schedule α)
    (order : Vector String n) :
    schedule.effectiveShocks order .cumulative =
      (schedule.effectiveShocks order .perYear).map (runningSums (Vector.replicate n 0)) := by
  simp only [effectiveShocks]
  generalize (List.mapM _ schedule.shocks.entries : Except (Fault α) _) = resolved
  cases resolved <;> rfl

theorem effective_shocks_years {α : Type} [Scalar α] (schedule : Schedule α)
    (order : Vector String n) (real : List (Int × Vector α n))
    (resolved : schedule.effectiveShocks order .perYear = .ok real) :
    real.map (·.1) = schedule.years := by
  rw [effective_shocks_per_year] at resolved
  exact Outcome.mapM_keyed_keys resolved

theorem running_sums_years {α : Type} [Scalar α] (start : Vector α n)
    (entries : List (Int × Vector α n)) :
    (runningSums start entries).map (·.1) = entries.map (·.1) := by
  induction entries generalizing start with
  | nil => rfl
  | cons entry rest ih => exact congrArg (entry.1 :: ·) (ih _)

theorem scheduled_years {α : Type} [Scalar α] (schedule : Schedule α) (order : Vector String n)
    (mode : ShockMode) (shocks : List (Int × Vector α n))
    (resolved : schedule.effectiveShocks order mode = .ok shocks) :
    shocks.map (·.1) = schedule.years := by
  cases mode with
  | perYear => exact effective_shocks_years schedule order shocks resolved
  | cumulative =>
      rw [effective_shocks_cumulative] at resolved
      obtain ⟨real, own, rfl⟩ := (Outcome.map_ok_iff _ _ _).mp resolved
      rw [running_sums_years]
      exact effective_shocks_years schedule order real own

end Schedule

end EconomicImpact
