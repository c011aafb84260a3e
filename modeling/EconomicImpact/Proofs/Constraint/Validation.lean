import Mathlib
import EconomicImpact.Constraint.Validation
import EconomicImpact.Proofs.Alignment
import EconomicImpact.Proofs.Feasibility.Infeasible

set_option autoImplicit false

namespace EconomicImpact

variable {α : Type} {n : Nat} {order : Vector String n}

namespace Scope

def Known (scope : Scope) (codes : List String) : Prop :=
  scope = .all ∨ ∀ code ∈ scope.codes, code ∈ codes

theorem first_unknown_none_iff (scope : Scope) :
    scope.firstUnknown? order = none ↔ scope.Known order.toList := by
  by_cases everywhere : scope = .all
  · subst everywhere
    exact iff_of_true rfl (.inl rfl)
  · rw [scope.first_unknown_eq everywhere, List.find?_eq_none, Known, or_iff_right everywhere]
    refine forall₂_congr fun code _ => ?_
    rw [← position_known_iff, ← Option.ne_none_iff_exists', Option.isNone_iff_eq_none]

-- A scope that names nothing unknown is resolved, and to some sector unless it names nothing.
theorem Known.indices {scope : Scope} (known : scope.Known order.toList) (nonempty : 0 < n)
    (naming : scope ≠ .group []) :
    ∃ covered, scope.indices order = .ok covered ∧ covered ≠ [] := by
  have resolved : scope.indices order = .ok ((List.finRange n).filter (scope.covers order)) := by
    rw [Scope.indices, scope.first_unknown_none_iff.mpr known]
  refine ⟨_, resolved, ?_⟩
  obtain ⟨i, inside⟩ : ∃ i, scope.covers order i = true := by
    by_cases everywhere : scope = .all
    · subst everywhere
      exact ⟨⟨0, nonempty⟩, rfl⟩
    · obtain ⟨code, named⟩ : ∃ code, code ∈ scope.codes := by
        refine List.exists_mem_of_ne_nil _ fun empty => ?_
        cases scope with
        | all => exact everywhere rfl
        | sector code => cases empty
        | group codes => exact naming (congrArg group empty)
      obtain ⟨i, place⟩ := (position_known_iff code).mpr (known.resolve_left everywhere code named)
      exact ⟨i, (scope.covers_iff everywhere i).mpr ⟨code, named, place⟩⟩
  exact List.ne_nil_of_mem (List.mem_filter.mpr ⟨List.mem_finRange i, inside⟩)

end Scope

variable [Scalar α]

namespace Constraint

structure Valid (c : Constraint α) (codes : List String) : Prop where
  finite : Scalar.isFinite c.value = true
  growth : c.kind = .ramp → ¬c.value < -1
  share : c.kind = .saudization → 0 ≤ c.value ∧ c.value ≤ 1
  window : ∀ first last, c.window = some (first, last) → first ≤ last
  naming : c.scope ≠ .group []
  known : c.scope.Known codes

theorem value_issues_nil_iff (c : Constraint α) :
    c.valueIssues = [] ↔
      (c.kind = .ramp → ¬c.value < -1) ∧ (c.kind = .saudization → 0 ≤ c.value ∧ c.value ≤ 1) := by
  unfold valueIssues
  cases c.kind <;> simp

omit [Scalar α] in
theorem window_issues_nil_iff (c : Constraint α) :
    c.windowIssues = [] ↔ ∀ first last, c.window = some (first, last) → first ≤ last := by
  unfold windowIssues
  cases window : c.window with
  | none => simp
  | some years => simp [Prod.ext_iff]

omit [Scalar α] in
theorem scope_issues_nil_iff (c : Constraint α) : c.scopeIssues = [] ↔ c.scope ≠ .group [] := by
  unfold scopeIssues
  split
  · rename_i nameless
    simp [nameless]
  · rename_i named
    exact iff_of_true rfl named

omit [Scalar α] in
theorem sector_issues_nil_iff (c : Constraint α) (codes : List String) :
    c.sectorIssues codes = [] ↔ c.scope.Known codes := by
  have unknown : c.scope.firstUnknown? codes.toArray.toVector = none ↔ c.scope.Known codes :=
    c.scope.first_unknown_none_iff
  unfold sectorIssues
  rw [← unknown]
  cases c.scope.firstUnknown? codes.toArray.toVector <;> simp

theorem issues_nil_iff (c : Constraint α) (codes : List String) :
    c.issues (some codes) = [] ↔ c.Valid codes := by
  have finite : (if Scalar.isFinite c.value then [] else
      [ConstraintIssue.nonFiniteValue c.id c.value]) = [] ↔ Scalar.isFinite c.value = true := by
    simp
  simp only [issues, List.append_eq_nil_iff, Option.map_some, Option.getD_some, finite,
    value_issues_nil_iff, window_issues_nil_iff, scope_issues_nil_iff, sector_issues_nil_iff]
  constructor
  · rintro ⟨⟨⟨⟨finite, growth, share⟩, window⟩, naming⟩, known⟩
    exact ⟨finite, growth, share, window, naming, known⟩
  · rintro ⟨finite, growth, share, window, naming, known⟩
    exact ⟨⟨⟨⟨finite, growth, share⟩, window⟩, naming⟩, known⟩

section resolution

variable (c : Constraint α)

theorem weights_available (coefficients : Option (AlignedCoefficients α n))
    (available : c.kind.isWeighted = true → coefficients ≠ none) (sectors : List (Fin n)) :
    ∃ weights, c.weights coefficients sectors = .ok weights := by
  unfold weights
  cases coefficients with
  | some aligned => cases c.kind <;> exact ⟨_, rfl⟩
  | none =>
      cases kind : c.kind with
      | labor => exact absurd rfl (available (by rw [kind]; rfl))
      | imports => exact absurd rfl (available (by rw [kind]; rfl))
      | capacityCap => exact ⟨_, rfl⟩
      | floor => exact ⟨_, rfl⟩
      | ramp => exact ⟨_, rfl⟩
      | saudization => exact ⟨_, rfl⟩

theorem limit_available (base : Vector α n) (terms : List (Fin n × α)) :
    ∃ limit, c.limit (some base) terms = .ok limit := by
  unfold limit
  cases c.kind <;> cases c.boundScope <;> exact ⟨_, rfl⟩

-- The checks of the resolver, in its order, against what the validator found in order.
theorem Valid.resolve_in_force {c : Constraint α} (valid : c.Valid order.toList) (nonempty : 0 < n)
    (base : Vector α n) (coefficients : Option (AlignedCoefficients α n))
    (available : c.kind.isWeighted = true → coefficients ≠ none) :
    ∃ outcome, c.resolveInForce order (some base) coefficients = .ok outcome := by
  obtain ⟨covered, found, covering⟩ := valid.known.indices nonempty valid.naming
  have someCovered : covered.isEmpty = false := List.isEmpty_eq_false_iff.mpr covering
  unfold resolveInForce
  simp only [valid.finite, found, Except.mapError, bind, Except.bind, someCovered, Bool.not_true,
    Bool.false_eq_true, if_false]
  cases c.kind.sense with
  | none => exact ⟨_, rfl⟩
  | some sense =>
      obtain ⟨weights, weighted⟩ := c.weights_available coefficients available covered
      simp only [weighted]
      generalize (covered.zip weights).filter _ = terms
      split
      · exact ⟨_, rfl⟩
      · obtain ⟨limit, limited⟩ := c.limit_available base terms
        simp only [limited]
        exact ⟨_, rfl⟩

theorem Valid.resolve {c : Constraint α} (valid : c.Valid order.toList) (nonempty : 0 < n)
    (year : Option Int) (base : Vector α n) (coefficients : Option (AlignedCoefficients α n))
    (available : c.kind.isWeighted = true → coefficients ≠ none) :
    ∃ outcome, c.resolve order year (some base) coefficients = .ok outcome := by
  by_cases inForce : c.appliesIn year = true
  · obtain ⟨outcome, resolved⟩ :=
      valid.resolve_in_force nonempty base coefficients available
    exact ⟨outcome, (c.resolve_in_force order _ _ year inForce outcome).mpr resolved⟩
  · rw [Constraint.resolve, if_neg inForce]
    exact ⟨_, rfl⟩

end resolution

end Constraint

namespace ConstraintSet

def key (c : Constraint α) : ConstraintKind × List String × Option (Int × Int) :=
  (c.kind, c.scope.sortedCodes, c.window)

structure Valid (set : ConstraintSet α) (codes : List String) : Prop where
  each : ∀ c ∈ set.constraints, c.Valid codes
  distinct : (set.constraints.map key).Nodup
  ordered : ∀ floor cap, (floor, cap) ∈ opposingPairs set.constraints → ¬cap.value < floor.value

omit [Scalar α] in
theorem duplicate_groups_nil_iff (set : ConstraintSet α) :
    set.duplicateGroups = [] ↔ (set.constraints.map key).Nodup := by
  rw [← List.length_eq_zero_iff, duplicateGroups, List.length_mergeSort, List.length_eq_zero_iff,
    List.filter_eq_nil_iff, List.forall_mem_map, List.nodup_iff_count_le_one]
  change (∀ k ∈ (set.constraints.map key).eraseDups, _) ↔ _
  constructor
  · intro single k
    by_cases listed : k ∈ set.constraints.map key
    · exact not_lt.mp fun repeated =>
        single k (List.mem_eraseDups.mpr listed) (decide_eq_true repeated)
    · exact (List.count_eq_zero_of_not_mem listed).trans_le (Nat.zero_le 1)
  · intro single k _ repeated
    exact (single k).not_gt (of_decide_eq_true repeated)

theorem floor_issues_nil_iff (set : ConstraintSet α) :
    set.floorIssues = [] ↔
      ∀ floor cap, (floor, cap) ∈ opposingPairs set.constraints → ¬cap.value < floor.value := by
  simp [floorIssues, List.filter_eq_nil_iff]

theorem validate_nil_iff (set : ConstraintSet α) (codes : List String) :
    set.validate (some codes) = [] ↔ set.Valid codes := by
  rw [validate, List.append_eq_nil_iff, List.append_eq_nil_iff, List.flatMap_eq_nil_iff,
    List.map_eq_nil_iff, duplicate_groups_nil_iff, floor_issues_nil_iff]
  simp only [Constraint.issues_nil_iff]
  constructor
  · rintro ⟨⟨each, distinct⟩, ordered⟩
    exact ⟨each, distinct, ordered⟩
  · rintro ⟨each, distinct, ordered⟩
    exact ⟨⟨each, distinct⟩, ordered⟩

omit [Scalar α] in
theorem mem_opposing_pairs_of_filter (kept : Constraint α → Bool) (constraints : List (Constraint α))
    (pair : Constraint α × Constraint α) (listed : pair ∈ opposingPairs (constraints.filter kept)) :
    pair ∈ opposingPairs constraints := by
  simp only [opposingPairs, List.mem_flatMap, List.mem_map, List.mem_filter] at listed ⊢
  obtain ⟨floor, ⟨⟨floorListed, -⟩, isFloor⟩, cap, ⟨⟨⟨capListed, -⟩, isCap⟩, opposed⟩, same⟩ := listed
  exact ⟨floor, ⟨floorListed, isFloor⟩, cap, ⟨⟨capListed, isCap⟩, opposed⟩, same⟩

section valid

variable {set : ConstraintSet α}

-- The validator compares more pairs than count in any year.
theorem Valid.no_hard_conflicts {codes : List String} (valid : set.Valid codes)
    (year : Option Int) : set.hardConflicts year = [] := by
  rw [hardConflicts, List.map_eq_nil_iff, List.filter_eq_nil_iff]
  intro pair listed refused
  obtain ⟨-, opposed⟩ := Bool.and_eq_true_iff.mp refused
  exact valid.ordered pair.1 pair.2 (mem_opposing_pairs_of_filter _ _ pair listed)
    (of_decide_eq_true opposed)

theorem Valid.resolve (valid : set.Valid order.toList) (nonempty : 0 < n)
    (distinct : order.toList.Nodup) (year : Option Int) {base : SectorVector α}
    (baseCovers : base.Covers order.toList) {c : Coefficients α} (covers : c.Covers order.toList) :
    ∃ resolution, set.resolve order ⟨year, some base, some c⟩ = .ok resolution := by
  obtain ⟨alignedBase, baseAligned, -⟩ := baseCovers.align_exact distinct "base output"
  obtain ⟨aligned, found, -⟩ := covers.align distinct
  obtain ⟨coefficients, weighed, available⟩ : ∃ coefficients,
      set.weighedWith order ⟨year, some base, some c⟩ = .ok coefficients ∧
        (set.weighs = true → coefficients ≠ none) := by
    by_cases needed : set.weighs = true
    · refine ⟨some aligned, ?_, nofun⟩
      rw [weighedWith, if_pos needed, Option.mapM_some, found]
      rfl
    · exact ⟨none, if_neg needed, fun weighs => absurd weighs needed⟩
  have prepared : set.Prepared order ⟨year, some base, some c⟩ (some alignedBase) coefficients :=
    ⟨by rw [Option.mapM_some, baseAligned]; rfl, weighed⟩
  obtain ⟨outcomes, resolved⟩ := Outcome.mapM_succeeds
    (·.resolve order year (some alignedBase) coefficients) set.constraints fun c listed =>
      (valid.each c listed).resolve nonempty year alignedBase coefficients fun weighted =>
        available (List.any_eq_true.mpr ⟨c, listed, weighted⟩)
  exact ⟨_, set.resolve_of_prepared order _ prepared resolved⟩

end valid

end ConstraintSet

inductive Fault.BlamesConstraints : Fault α → Prop
  | invalid (id : Uuid) (defect : ConstraintDefect α) :
      BlamesConstraints (.invalidConstraint id defect)
  | opposing (ids : List Uuid) : BlamesConstraints (.infeasible .opposingBounds ids)

theorem Feasibility.solve_free_of_resolved (optimise : Optimiser α)
    (settings : FeasibilitySettings α) (u : SectorVector α) (set : ConstraintSet α)
    (context : SolveContext α) (consistent : set.hardConflicts context.year = [])
    (resolved : ∃ resolution, set.resolve u.codes context.resolution = .ok resolution) :
    Outcome.Free Fault.BlamesConstraints (solve optimise settings u set context) := by
  by_cases finite : ∀ i, Scalar.isFinite (u.values.get i) = true
  · obtain ⟨resolution, resolved⟩ := resolved
    rw [solve_of_consistent optimise finite consistent, resolved]
    refine finish_free (fun cause ids joint blamed => ?_) optimise settings u set context resolution
    cases blamed
    exact joint rfl
  · rw [solve_of_not_finite optimise finite]
    exact Outcome.free_error nofun

theorem ConstraintSet.validated_set_accepted {set : ConstraintSet α} (nonempty : 0 < n)
    (distinct : order.toList.Nodup) (clean : set.validate (some order.toList) = [])
    (year : Option Int) {base : SectorVector α} (baseCovers : base.Covers order.toList)
    {c : Coefficients α} (covers : c.Covers order.toList) :
    set.hardConflicts year = [] ∧
      (∃ resolution, set.resolve order ⟨year, some base, some c⟩ = .ok resolution) ∧
      ∀ (optimise : Optimiser α) (settings : FeasibilitySettings α) (u : SectorVector α)
        (run : Option Uuid) (shares : Option (SectorVector α)), u.codes.toList = order.toList →
        ∀ fault, Feasibility.solve optimise settings u set
            ⟨run, year, some base, some c, shares⟩ = .error fault →
          (∀ id defect, fault ≠ .invalidConstraint id defect) ∧
            ∀ ids, fault ≠ .infeasible .opposingBounds ids := by
  have valid := (set.validate_nil_iff order.toList).mp clean
  have consistent := valid.no_hard_conflicts year
  refine ⟨consistent, valid.resolve nonempty distinct year baseCovers covers, ?_⟩
  intro optimise settings u run shares same fault failed
  -- A solve takes the sectors in the order of the change it is given.
  have counted : u.size = n := by simpa using congrArg List.length same
  rw [← same] at valid distinct baseCovers covers
  have free := Feasibility.solve_free_of_resolved optimise settings u set
    ⟨run, year, some base, some c, shares⟩ consistent
    (valid.resolve (counted ▸ nonempty) distinct year baseCovers covers) fault failed
  refine ⟨?_, ?_⟩
  · rintro id defect rfl
    exact free (.invalid id defect)
  · rintro ids rfl
    exact free (.opposing ids)

def mixedBounds : ConstraintSet ℚ :=
  .ofConstraints [
    .strictOn .floor "S1" 10,
    .strictOn .capacityCap "S1" 20,
    { Constraint.strictOn .floor "S2" 50 with window := some (2026, 2028) },
    { Constraint.strictOn .capacityCap "S2" 40 with
      window := some (2029, 2030), boundScope := .absoluteTotal },
    { Constraint.strictOn .ramp "S1" (1/10) with scope := .all },
    { Constraint.strictOn .labor "S1" 100 with
      scope := .group ["S2", "S1"], confidence := .estimated },
    .strictOn .imports "S2" 5,
    .strictOn .saudization "S1" (1/4)]

def pairOutput : SectorVector ℚ := ⟨[("S2", 300), ("S1", 200)]⟩

def pairRatios : Coefficients ℚ := ⟨.nil, pairOutput, pairOutput, pairOutput⟩

def pairChange : SectorVector ℚ := ⟨[("S1", 15), ("S2", 60)]⟩

-- Kinds and windows tell these constraints apart without their codes being sorted.
theorem mixed_bounds_valid : mixedBounds.Valid pairChange.codes.toList := by
  have each : ∀ c ∈ mixedBounds.constraints, c.issues (some pairChange.codes.toList) = [] := by
    decide +kernel
  refine ⟨fun c listed => (c.issues_nil_iff _).mp (each c listed), ?_, ?_⟩
  · exact List.Nodup.of_map (fun k => (k.1, k.2.2)) (by decide)
  · exact mixedBounds.floor_issues_nil_iff.mp (by decide +kernel)

theorem mixed_bounds_accepted :
    mixedBounds.validate (some pairChange.codes.toList) = [] ∧
      mixedBounds.hardConflicts (some 2027) = [] ∧
      (∃ resolution, mixedBounds.resolve pairChange.codes
        ⟨some 2027, some pairOutput, some pairRatios⟩ = .ok resolution) ∧
      ∀ fault, Feasibility.solve simplex Settings.standard.feasibility pairChange mixedBounds
          ⟨none, some 2027, some pairOutput, some pairRatios, none⟩ = .error fault →
        (∀ id defect, fault ≠ .invalidConstraint id defect) ∧
          ∀ ids, fault ≠ .infeasible .opposingBounds ids := by
  have clean := (mixedBounds.validate_nil_iff _).mpr mixed_bounds_valid
  have baseCovers : pairOutput.Covers pairChange.codes.toList := by decide
  have covers : pairRatios.Covers pairChange.codes.toList := by decide
  obtain ⟨consistent, resolved, answers⟩ := ConstraintSet.validated_set_accepted (by decide)
    (by decide) clean (some 2027) baseCovers covers
  exact ⟨clean, consistent, resolved,
    answers simplex Settings.standard.feasibility pairChange none none rfl⟩

end EconomicImpact
