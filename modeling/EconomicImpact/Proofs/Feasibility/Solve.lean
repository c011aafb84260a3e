import EconomicImpact.Feasibility.Solve
import EconomicImpact.Proofs.Outcome
import EconomicImpact.Proofs.SectorVector

set_option autoImplicit false

namespace EconomicImpact

variable {α : Type}

def Constraint.strictOn (kind : ConstraintKind) (code : String) (value : α) : Constraint α where
  id := .nil
  kind
  scope := .sector code
  value
  unit := kind.defaultUnit
  confidence := .hard
  boundScope := .deltaOnly
  window := none
  description := none

def ConstraintSet.ofConstraints (constraints : List (Constraint α)) : ConstraintSet α :=
  ⟨.nil, 1, "", constraints⟩

def SolveContext.bare (coefficients : Option (Coefficients α)) : SolveContext α :=
  ⟨none, none, none, coefficients, none⟩

def clippingOnly [Scalar α] : FeasibilitySettings α :=
  { Settings.standard.feasibility with lpEnabled := false }

def SolveContext.resolution (context : SolveContext α) : ResolutionContext α :=
  ⟨context.year, context.baseOutput, context.coefficients⟩

namespace Feasibility

variable [Scalar α]

structure Solved (optimise : Optimiser α) (settings : FeasibilitySettings α) (u : SectorVector α)
    (set : ConstraintSet α) (context : SolveContext α) (resolution : Resolution α u.size)
    (found : Candidate α u.size) (y : Vector α u.size) : Prop where
  finite : ∀ i, Scalar.isFinite (u.values.get i) = true
  consistent : set.hardConflicts context.year = []
  resolved : set.resolve u.codes context.resolution = .ok resolution
  chosen : candidate optimise settings u.values resolution.active = .ok found
  settled : settle settings.bindingTolerance u.values resolution.active found = .ok y

theorem Solved.resolution_unique {optimise : Optimiser α} {settings : FeasibilitySettings α}
    {u : SectorVector α} {set : ConstraintSet α} {context : SolveContext α}
    {resolution other : Resolution α u.size} {found : Candidate α u.size} {y : Vector α u.size}
    (stages : Solved optimise settings u set context resolution found y)
    (resolved : set.resolve u.codes context.resolution = .ok other) : resolution = other := by
  have same := stages.resolved.symm.trans resolved
  cases same
  rfl

theorem some_not_finite_iff {n : Nat} (v : Vector α n) :
    (v.toList.any fun a => !Scalar.isFinite a) = false ↔
      ∀ i, Scalar.isFinite (v.get i) = true := by
  rw [List.any_eq_false, ← forall_mem_to_list_iff (fun a => Scalar.isFinite a = true)]
  simp only [Bool.not_eq_true', Bool.not_eq_false]

theorem solve_ok_iff (optimise : Optimiser α) (settings : FeasibilitySettings α)
    (u : SectorVector α) (set : ConstraintSet α) (context : SolveContext α)
    (r : FeasibilityResult α) :
    solve optimise settings u set context = .ok r ↔
      ∃ resolution found y, Solved optimise settings u set context resolution found y ∧
        report settings u set context resolution y found.method found.fallback = r := by
  unfold solve
  cases finite : u.values.toList.any fun v => !Scalar.isFinite v with
  | true =>
      constructor
      · intro solved
        cases solved
      · rintro ⟨resolution, found, y, stages, -⟩
        have all := (some_not_finite_iff u.values).mpr stages.finite
        rw [all] at finite
        cases finite
  | false =>
      have all := (some_not_finite_iff u.values).mp finite
      cases conflicts : set.hardConflicts context.year with
      | cons first rest =>
          constructor
          · intro solved
            cases solved
          · rintro ⟨resolution, found, y, stages, -⟩
            rw [stages.consistent] at conflicts
            cases conflicts
      | nil =>
          simp only [Bool.false_eq_true, if_false, Outcome.bind_ok_iff, Outcome.pure_ok_iff]
          constructor
          · rintro ⟨resolution, resolved, found, chosen, y, settled, same⟩
            exact ⟨resolution, found, y, ⟨all, conflicts, resolved, chosen, settled⟩, same⟩
          · rintro ⟨resolution, found, y, stages, same⟩
            exact ⟨resolution, stages.resolved, found, stages.chosen, y, stages.settled, same⟩

def finish (optimise : Optimiser α) (settings : FeasibilitySettings α) (u : SectorVector α)
    (set : ConstraintSet α) (context : SolveContext α) (resolution : Resolution α u.size) :
    Except (Fault α) (FeasibilityResult α) :=
  candidate optimise settings u.values resolution.active >>= fun found =>
    settle settings.bindingTolerance u.values resolution.active found >>= fun y =>
      pure (report settings u set context resolution y found.method found.fallback)

section stages

variable (optimise : Optimiser α) {settings : FeasibilitySettings α} {u : SectorVector α}
  {set : ConstraintSet α} {context : SolveContext α}

theorem solve_of_not_finite (undefined : ¬∀ i, Scalar.isFinite (u.values.get i) = true) :
    solve optimise settings u set context = .error (.invalidInput .nonFiniteDelta) := by
  rw [← some_not_finite_iff, Bool.not_eq_false] at undefined
  unfold solve
  rw [if_pos undefined]
  rfl

variable (finite : ∀ i, Scalar.isFinite (u.values.get i) = true)

include finite

theorem solve_of_conflicts (conflicting : set.hardConflicts context.year ≠ []) :
    solve optimise settings u set context = .error (.infeasible .opposingBounds
      ((set.hardConflicts context.year).flatMap fun (floor, cap) => [floor, cap]).eraseDups) := by
  unfold solve
  rw [(some_not_finite_iff u.values).mpr finite]
  cases conflicts : set.hardConflicts context.year with
  | nil => exact absurd conflicts conflicting
  | cons first rest => rfl

theorem solve_of_consistent (consistent : set.hardConflicts context.year = []) :
    solve optimise settings u set context =
      set.resolve u.codes context.resolution >>= finish optimise settings u set context := by
  unfold solve
  rw [(some_not_finite_iff u.values).mpr finite, consistent]
  rfl

end stages

inductive Chosen {n : Nat} (optimise : Optimiser α) (settings : FeasibilitySettings α)
    (u : Vector α n) (bounds : List (Bound α n)) : Candidate α n → Prop
  | passthrough (free : bounds = []) :
      Chosen optimise settings u bounds ⟨u, .passthrough, none⟩
  | disabled (bounded : bounds ≠ []) (off : settings.lpEnabled = false) :
      Chosen optimise settings u bounds (clipped u bounds .disabled)
  | optimal (bounded : bounds ≠ []) (on : settings.lpEnabled = true) (z : Vector α n)
      (solved : leastDeviation optimise u bounds settings.softPenalty = .ok z)
      (met : hardViolations settings.bindingTolerance z bounds = []) :
      Chosen optimise settings u bounds ⟨z, .lp, none⟩
  | violated (bounded : bounds ≠ []) (on : settings.lpEnabled = true) (z : Vector α n)
      (solved : leastDeviation optimise u bounds settings.softPenalty = .ok z)
      (id : Uuid) (others : List Uuid)
      (missed : hardViolations settings.bindingTolerance z bounds = id :: others) :
      Chosen optimise settings u bounds (clipped u bounds (.violates id))
  | failed (bounded : bounds ≠ []) (on : settings.lpEnabled = true) (reason : String)
      (solved : leastDeviation optimise u bounds settings.softPenalty = .error (.failed reason)) :
      Chosen optimise settings u bounds (clipped u bounds (.failed reason))

theorem candidate_ok_iff {n : Nat} (optimise : Optimiser α) (settings : FeasibilitySettings α)
    (u : Vector α n) (bounds : List (Bound α n)) (found : Candidate α n) :
    candidate optimise settings u bounds = .ok found ↔
      Chosen optimise settings u bounds found := by
  constructor
  · intro chosen
    unfold candidate at chosen
    by_cases free : bounds = []
    · rw [if_pos (by simp [free])] at chosen
      cases chosen
      exact .passthrough free
    · rw [if_neg (by simpa using free)] at chosen
      cases enabled : settings.lpEnabled with
      | false =>
          rw [if_pos (by simp [enabled])] at chosen
          cases chosen
          exact .disabled free enabled
      | true =>
          rw [if_neg (by simp [enabled])] at chosen
          cases outcome : leastDeviation optimise u bounds settings.softPenalty with
          | ok z =>
              cases missed : hardViolations settings.bindingTolerance z bounds with
              | nil =>
                  simp only [outcome, missed] at chosen
                  cases chosen
                  exact .optimal free enabled z outcome missed
              | cons id others =>
                  simp only [outcome, missed] at chosen
                  cases chosen
                  exact .violated free enabled z outcome id others missed
          | error obstacle =>
              cases obstacle with
              | infeasible =>
                  simp only [outcome] at chosen
                  cases chosen
              | failed reason =>
                  simp only [outcome] at chosen
                  cases chosen
                  exact .failed free enabled reason outcome
  · intro chosen
    cases chosen with
    | passthrough free => simp [candidate, free]
    | disabled bounded off => simp [candidate, bounded, off]
    | optimal bounded on z solved met => simp [candidate, bounded, on, solved, met]
    | violated bounded on z solved id others missed => simp [candidate, bounded, on, solved, missed]
    | failed bounded on reason solved => simp [candidate, bounded, on, solved]

theorem hard_violations_nil_iff {n : Nat} (tolerance : α) (y : Vector α n)
    (bounds : List (Bound α n)) :
    hardViolations tolerance y bounds = [] ↔
      ∀ b ∈ bounds, b.isHard = true → ¬violationTolerance tolerance b.limit < b.violation y := by
  simp [hardViolations, List.filter_eq_nil_iff]

end Feasibility

end EconomicImpact
