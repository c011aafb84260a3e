import Mathlib
import EconomicImpact.Proofs.Constraint.Resolution
import EconomicImpact.Proofs.Feasibility.Deviation

set_option autoImplicit false

namespace EconomicImpact

variable {n : Nat} {order : Vector String n}

namespace Scope

theorem covers_iff (scope : Scope) (some_codes : scope ≠ .all) (i : Fin n) :
    scope.covers order i = true ↔ ∃ code ∈ scope.codes, position? order code = some i := by
  cases scope with
  | all => exact absurd rfl some_codes
  | sector code => simp [covers]
  | group codes => simp [covers]

theorem first_unknown_eq (scope : Scope) (some_codes : scope ≠ .all) :
    scope.firstUnknown? order =
      scope.codes.find? fun code => (position? order code).isNone := by
  cases scope with
  | all => exact absurd rfl some_codes
  | sector code => rfl
  | group codes => rfl

theorem indices_ok_iff (scope : Scope) (some_codes : scope ≠ .all) (sectors : List (Fin n)) :
    scope.indices order = .ok sectors ↔
      (∀ code ∈ scope.codes, ∃ i, position? order code = some i) ∧
        (List.finRange n).filter (scope.covers order) = sectors := by
  unfold indices
  rw [scope.first_unknown_eq some_codes]
  cases first : scope.codes.find? fun code => (position? order code).isNone with
  | some code =>
      constructor
      · intro found
        cases found
      · rintro ⟨known, -⟩
        obtain ⟨i, place⟩ := known code (List.mem_of_find?_eq_some first)
        have missing := List.find?_some first
        simp [place] at missing
  | none =>
      have known : ∀ code ∈ scope.codes, ∃ i, position? order code = some i := by
        intro code member
        have present := List.find?_eq_none.mp first code member
        exact Option.ne_none_iff_exists'.mp (by simpa using present)
      constructor
      · intro found
        cases found
        exact ⟨known, rfl⟩
      · rintro ⟨-, same⟩
        rw [same]

-- The code of all sectors in a list of codes can only be resolved if a sector has it.
theorem all_sectors_listed (scope : Scope) (some_codes : scope ≠ .all) (sectors : List (Fin n))
    (found : scope.indices order = .ok sectors) (listed : allSectors ∈ scope.codes) :
    allSectors ∈ order.toList := by
  obtain ⟨known, -⟩ := (scope.indices_ok_iff some_codes sectors).mp found
  obtain ⟨i, place⟩ := known _ listed
  rw [← get_of_position _ i place]
  exact Vector.mem_toList_iff.mpr (Vector.getElem_mem i.isLt)

theorem indices_eq_of_same_codes (s t : Scope) (same : s.sameCodes t = true)
    (proper : allSectors ∉ order.toList) (sectors others : List (Fin n))
    (found : s.indices order = .ok sectors) (foundOthers : t.indices order = .ok others) :
    sectors = others := by
  simp only [sameCodes, Bool.and_eq_true, List.all_eq_true, decide_eq_true_eq] at same
  by_cases allS : s = .all
  · by_cases allT : t = .all
    · rw [allS] at found
      rw [allT, found] at foundOthers
      cases foundOthers
      rfl
    · subst allS
      have listed := same.1 allSectors (by simp [codes])
      exact absurd (t.all_sectors_listed allT others foundOthers listed) proper
  · by_cases allT : t = .all
    · subst allT
      have listed := same.2 allSectors (by simp [codes])
      exact absurd (s.all_sectors_listed allS sectors found listed) proper
    · obtain ⟨-, rfl⟩ := (s.indices_ok_iff allS sectors).mp found
      obtain ⟨-, rfl⟩ := (t.indices_ok_iff allT others).mp foundOthers
      refine List.filter_congr fun i _ => ?_
      rw [Bool.eq_iff_iff, s.covers_iff allS, t.covers_iff allT]
      constructor
      · rintro ⟨code, member, place⟩
        exact ⟨code, same.1 code member, place⟩
      · rintro ⟨code, member, place⟩
        exact ⟨code, same.2 code member, place⟩

end Scope

variable {K : Type} [Field K] [LinearOrder K] [IsStrictOrderedRing K]

namespace Constraint

theorem unit_weights_active (c : Constraint K) (base : Option (Vector K n))
    (coefficients : Option (AlignedCoefficients K n)) (sense : Sense)
    (direction : c.kind.sense = some sense) (unweighted : c.kind.isWeighted = false)
    (outcome : Resolved K n)
    (resolved : c.resolveInForce order base coefficients = .ok outcome) :
    ∃ sectors limit, c.scope.indices order = .ok sectors ∧
      c.limit base (sectors.map fun i => (i, 1)) = .ok limit ∧
      outcome = .active ⟨c, sense, sectors.map fun i => (i, 1), limit⟩ := by
  obtain ⟨sectors, weights, terms, covering, found, weighted, rfl, cases⟩ :=
    c.resolve_in_force_cases order base coefficients sense direction outcome resolved
  have ones : weights = sectors.map fun _ => 1 := by
    cases kind : c.kind <;> simp_all [Constraint.weights, ConstraintKind.isWeighted]
  have kept : ((sectors.zip weights).filter fun (_, w) => decide (0 < w)) =
      sectors.map fun i => (i, 1) := by
    rw [ones, List.filter_eq_self.mpr]
    · exact List.map_prod_left_eq_zip.symm
    · intro t member
      obtain ⟨i, -, one⟩ := List.mem_map.mp (List.of_mem_zip member).2
      simp [← one]
  rw [kept] at cases
  rcases cases with ⟨empty, -⟩ | ⟨-, limit, limited, active⟩
  · exact absurd (List.map_eq_nil_iff.mp empty) covering
  · exact ⟨sectors, limit, found, limited, active⟩

omit [IsStrictOrderedRing K] in
theorem limit_unramped (c : Constraint K) (base : Option (Vector K n)) (terms : List (Fin n × K))
    (unramped : c.kind ≠ .ramp) :
    c.limit base terms = match c.boundScope, base with
      | .deltaOnly, _ => .ok c.value
      | .absoluteTotal, some base =>
        .ok (c.value - Scalar.total (terms.map fun (i, w) => w * base.get i))
      | .absoluteTotal, none => .error .baseRequiredByTotal := by
  cases kind : c.kind <;> cases measure : c.boundScope <;> cases base <;>
    simp_all [limit]

omit [IsStrictOrderedRing K] in
theorem limit_sub_limit (c d : Constraint K) (base : Option (Vector K n))
    (terms : List (Fin n × K)) (unrampedC : c.kind ≠ .ramp) (unrampedD : d.kind ≠ .ramp)
    (measure : c.boundScope = d.boundScope) (limitC limitD : K)
    (limitedC : c.limit base terms = .ok limitC) (limitedD : d.limit base terms = .ok limitD) :
    limitC - limitD = c.value - d.value := by
  rw [limit_unramped c base terms unrampedC, measure] at limitedC
  rw [limit_unramped d base terms unrampedD] at limitedD
  cases measured : d.boundScope with
  | deltaOnly =>
      simp only [measured] at limitedC limitedD
      cases limitedC
      cases limitedD
      rfl
  | absoluteTotal =>
      cases base with
      | none =>
          simp only [measured] at limitedC
          cases limitedC
      | some base =>
          simp only [measured] at limitedC limitedD
          cases limitedC
          cases limitedD
          exact sub_sub_sub_cancel_right _ _ _

end Constraint

namespace ConstraintSet

variable (set : ConstraintSet K) (context : ResolutionContext K) (resolution : Resolution K n)

-- The bounds of a hard floor above a hard cap act on one sum, so every vector violates one of them.
theorem hard_conflict_violated (resolved : set.resolve order context = .ok resolution)
    (proper : allSectors ∉ order.toList) (conflict : set.hardConflicts context.year ≠ [])
    (y : Vector K n) :
    ∃ b ∈ resolution.active, b.isHard = true ∧ 0 < b.violation y := by
  obtain ⟨base, coefficients, outcomes, mapped, rfl⟩ :=
    set.resolve_each order context resolution resolved
  obtain ⟨ids, listed⟩ := List.exists_mem_of_ne_nil _ conflict
  simp only [hardConflicts, opposingPairs, List.mem_map, List.mem_filter, List.mem_flatMap,
    Bool.and_eq_true, beq_iff_eq, decide_eq_true_eq] at listed
  obtain ⟨pair, ⟨⟨floor, ⟨⟨floorListed, floorHard, floorHolds⟩, isFloor⟩, cap,
    ⟨⟨⟨capListed, capHard, capHolds⟩, isCap⟩, sameCodes, overlap⟩, rfl⟩, measure, opposed⟩, -⟩ :=
    listed
  obtain ⟨outcomeFloor, resolvedFloor, floorOk⟩ :=
    Outcome.mapM_ok_input _ _ _ mapped floor floorListed
  obtain ⟨outcomeCap, resolvedCap, capOk⟩ := Outcome.mapM_ok_input _ _ _ mapped cap capListed
  rw [floor.resolve_in_force order base coefficients _ floorHolds] at floorOk
  rw [cap.resolve_in_force order base coefficients _ capHolds] at capOk
  obtain ⟨sectors, limitFloor, foundFloor, limitedFloor, rfl⟩ := floor.unit_weights_active base
    coefficients .lower (by rw [isFloor]; rfl) (by rw [isFloor]; rfl) outcomeFloor floorOk
  obtain ⟨others, limitCap, foundCap, limitedCap, rfl⟩ := cap.unit_weights_active base
    coefficients .upper (by rw [isCap]; rfl) (by rw [isCap]; rfl) outcomeCap capOk
  obtain rfl := floor.scope.indices_eq_of_same_codes cap.scope sameCodes proper sectors others
    foundFloor foundCap
  have gap := floor.limit_sub_limit cap base _ (by simp [isFloor]) (by simp [isCap]) measure
    limitFloor limitCap limitedFloor limitedCap
  have activeFloor := (Resolution.mem_active_iff _ _).mpr resolvedFloor
  have activeCap := (Resolution.mem_active_iff _ _).mpr resolvedCap
  by_contra kept
  push Not at kept
  have floorMet := (Bound.violation_le_iff _ _ 0 (le_refl 0)).mp (kept _ activeFloor floorHard)
  have capMet := (Bound.violation_le_iff _ _ 0 (le_refl 0)).mp (kept _ activeCap capHard)
  simp only [Bound.lhs] at floorMet capMet
  linarith

end ConstraintSet

end EconomicImpact
