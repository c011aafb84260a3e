import Mathlib
import EconomicImpact.Feasibility.Simplex
import EconomicImpact.Proofs.Fault
import EconomicImpact.Proofs.Feasibility.Infeasible

/-!
Constraints outside their window. A solve for one year goes as it goes on the constraints in force in that
year, with one exception: coefficients that do not cover the sectors are refused on behalf of a constraint
that weighs with them, also of one whose window excludes the year.
-/

set_option autoImplicit false

namespace EconomicImpact

variable {α : Type} {n : Nat}

def ConstraintSet.during (set : ConstraintSet α) (year : Int) : ConstraintSet α :=
  { set with constraints := set.constraints.filter (·.appliesIn (some year)) }

structure FeasibilityResult.SameSolution (r s : FeasibilityResult α) : Prop where
  feasible : r.feasible = s.feasible
  gap : r.gap = s.gap
  totals : r.totals = s.totals
  method : r.method = s.method
  fallbackUsed : r.fallbackUsed = s.fallbackUsed
  fallbackReason : r.fallbackReason = s.fallbackReason
  binding : r.binding = s.binding
  slack : r.slack = s.slack
  enablers : r.enablers = s.enablers
  diagnostics : r.diagnostics = s.diagnostics
  warnings : r.warnings = s.warnings

structure Resolution.SameForce (r s : Resolution α n) : Prop where
  active : r.active = s.active
  diagnostics : r.diagnostics = s.diagnostics

theorem Resolution.SameForce.cons (outcome : Resolved α n) {outcomes others : List (Resolved α n)}
    (same : (ofList outcomes).SameForce (ofList others)) :
    (ofList (outcome :: outcomes)).SameForce (ofList (outcome :: others)) := by
  obtain ⟨active, diagnostics⟩ := same
  cases outcome with
  | active b => exact ⟨congrArg (b :: ·) active, diagnostics⟩
  | inactive id => exact ⟨active, diagnostics⟩
  | diagnostic target => exact ⟨active, congrArg (target :: ·) diagnostics⟩

variable [Scalar α]

namespace Constraint

variable (c : Constraint α) (order : Vector String n) (year : Int) (base : Option (Vector α n))

theorem resolve_expired (coefficients : Option (AlignedCoefficients α n))
    (expired : c.appliesIn (some year) = false) :
    c.resolve order (some year) base coefficients = .ok (.inactive c.id) := by
  rw [resolve, if_neg (by simp [expired])]

theorem resolve_unweighted (unweighted : c.kind.isWeighted = false) (dated : Option Int)
    (coefficients others : Option (AlignedCoefficients α n)) :
    c.resolve order dated base coefficients = c.resolve order dated base others := by
  have weights (sectors : List (Fin n)) :
      c.weights coefficients sectors = c.weights others sectors := by
    unfold Constraint.weights
    cases kind : c.kind <;> first | rfl | simp [kind, ConstraintKind.isWeighted] at unweighted
  simp only [resolve, resolveInForce, weights]

end Constraint

namespace ConstraintSet

variable (set : ConstraintSet α) (order : Vector String n) (year : Int)

theorem during_conflicts :
    (set.during year).hardConflicts (some year) = set.hardConflicts (some year) := by
  simp only [hardConflicts, during, List.filter_filter]
  congr! 4
  simp

-- Without the expired constraints the same outcomes are left but for those set aside.
theorem resolve_during_each (constraints : List (Constraint α)) (base : Option (Vector α n))
    (coefficients others : Option (AlignedCoefficients α n))
    (agree : ∀ c ∈ constraints, c.appliesIn (some year) = true →
      c.resolve order (some year) base coefficients = c.resolve order (some year) base others) :
    Outcome.Same (fun outcomes left =>
        (Resolution.ofList outcomes).SameForce (Resolution.ofList left))
      (constraints.mapM (·.resolve order (some year) base coefficients))
      ((constraints.filter (·.appliesIn (some year))).mapM
        (·.resolve order (some year) base others)) := by
  induction constraints with
  | nil => exact .ok ⟨rfl, rfl⟩
  | cons c rest ih =>
      obtain ⟨here, later⟩ := List.forall_mem_cons.mp agree
      rw [List.mapM_cons, List.filter_cons]
      cases inForce : c.appliesIn (some year) with
      | true =>
          rw [if_pos rfl, List.mapM_cons]
          refine (Outcome.Same.of_eq (here inForce)).bind fun outcome same equal => ?_
          subst equal
          exact (ih later).bind fun outcomes left related => .ok (related.cons outcome)
      | false =>
          rw [if_neg Bool.false_ne_true, c.resolve_expired order year base coefficients inForce]
          rw [← bind_pure (List.mapM _ (rest.filter _))]
          exact (ih later).bind fun outcomes left related =>
            .ok ⟨related.active, related.diagnostics⟩

-- The resolution comes to coefficients that do not cover the sectors, and only constraints whose window
-- excludes the year ask for them.
structure StrayCheck (context : ResolutionContext α) : Prop where
  base : ∃ base, context.baseOutput.mapM (·.alignExact order "base output") = .ok base
  asked : set.weighs = true
  unasked : (set.during year).weighs = false
  refused : ∃ c fault, context.coefficients = some c ∧ c.align order = .error fault

variable {set order year} {context : ResolutionContext α}

theorem weighed_with_during {base : Option (Vector α n)}
    (aligned : context.baseOutput.mapM (·.alignExact order "base output") = .ok base)
    (checked : ¬set.StrayCheck order year context) :
    Outcome.Same (fun coefficients others => ∀ c ∈ set.constraints,
        c.appliesIn (some year) = true →
          c.resolve order (some year) base coefficients =
            c.resolve order (some year) base others)
      (set.weighedWith order context) ((set.during year).weighedWith order context) := by
  unfold weighedWith
  cases weighed : (set.during year).weighs with
  | true =>
      have all : set.weighs = true := by
        obtain ⟨c, inForce, weighted⟩ := List.any_eq_true.mp weighed
        exact List.any_eq_true.mpr ⟨c, List.mem_of_mem_filter inForce, weighted⟩
      rw [all]
      cases context.coefficients.mapM (·.align order) with
      | ok coefficients => exact .ok fun c _ _ => rfl
      | error fault => exact .error fault
  | false =>
      have unweighted (coefficients others : Option (AlignedCoefficients α n)) :
          ∀ c ∈ set.constraints, c.appliesIn (some year) = true →
            c.resolve order (some year) base coefficients =
              c.resolve order (some year) base others := by
        intro c listed inForce
        refine c.resolve_unweighted order base ?_ _ coefficients others
        exact Bool.eq_false_iff.mpr fun weighted => Bool.eq_false_iff.mp weighed
          (List.any_eq_true.mpr ⟨c, List.mem_filter.mpr ⟨listed, inForce⟩, weighted⟩)
      cases all : set.weighs with
      | true =>
          cases looked : context.coefficients.mapM (·.align order) with
          | ok coefficients => exact .ok (unweighted coefficients none)
          | error fault =>
              cases given : context.coefficients with
              | none => exact absurd (given ▸ looked) nofun
              | some c =>
                  rw [given] at looked
                  have refused := (Outcome.map_stopped_iff _ _ _).mp looked
                  exact absurd ⟨⟨base, aligned⟩, all, weighed, c, fault, given, refused⟩ checked
      | false => exact .ok (unweighted none none)

theorem resolve_during (dated : context.year = some year)
    (checked : ¬set.StrayCheck order year context) :
    Outcome.Same Resolution.SameForce (set.resolve order context)
      ((set.during year).resolve order context) := by
  rw [resolve_eq, resolve_eq, dated]
  cases aligned : context.baseOutput.mapM (·.alignExact order "base output") with
  | error fault => exact .error fault
  | ok base =>
      refine (weighed_with_during aligned checked).bind fun coefficients others agree => ?_
      exact (resolve_during_each order year set.constraints base coefficients others agree).bind
        fun outcomes left related => .ok related

theorem StrayCheck.resolve_error (check : set.StrayCheck order year context) :
    ∃ fault, fault.Misaligned ∧ set.resolve order context = .error fault := by
  obtain ⟨base, aligned⟩ := check.base
  obtain ⟨c, fault, given, refused⟩ := check.refused
  refine ⟨fault, not_not.mp (c.align_misaligned order fault refused), ?_⟩
  rw [resolve_eq, aligned, weighedWith, if_pos check.asked, given]
  change (c.align order >>= fun aligned => pure (some aligned)) >>= _ = _
  rw [refused]
  rfl

theorem StrayCheck.resolve_during_free (check : set.StrayCheck order year context) :
    Outcome.Free Fault.Misaligned ((set.during year).resolve order context) := by
  obtain ⟨base, aligned⟩ := check.base
  have invalid (c : Constraint α) (defect : ConstraintDefect α) :
      ¬Fault.Misaligned (.invalidConstraint c.id defect) := by
    intro misaligned
    cases misaligned
  rw [resolve_eq, aligned, weighedWith, if_neg (Bool.eq_false_iff.mp check.unasked)]
  refine Outcome.free_bind (Outcome.free_ok base) fun base => ?_
  refine Outcome.free_bind (Outcome.free_ok none) fun coefficients => ?_
  refine Outcome.free_bind (Outcome.free_mapM (fun c => ?_) _) fun outcomes => Outcome.free_ok _
  unfold Constraint.resolve
  split
  · exact Outcome.free_map_error (invalid c) _
  · exact Outcome.free_ok _

end ConstraintSet

namespace Feasibility

variable (optimise : Optimiser α) {settings : FeasibilitySettings α} {u : SectorVector α}
  {set : ConstraintSet α} {context : SolveContext α}

theorem report_same_solution {resolution left : Resolution α u.size}
    (same : resolution.SameForce left) (year : Int) (y : Vector α u.size) (method : SolveMethod)
    (fallback : Option FallbackReason) :
    (report settings u set context resolution y method fallback).SameSolution
      (report settings u (set.during year) context left y method fallback) := by
  obtain ⟨active, inactive, diagnostics⟩ := resolution
  obtain ⟨rfl, rfl⟩ := same
  exact ⟨rfl, rfl, rfl, rfl, rfl, rfl, rfl, rfl, rfl, rfl, rfl⟩

theorem finish_same {resolution left : Resolution α u.size} (same : resolution.SameForce left)
    (year : Int) :
    Outcome.Same FeasibilityResult.SameSolution
      (finish optimise settings u set context resolution)
      (finish optimise settings u (set.during year) context left) := by
  unfold finish
  rw [same.active]
  refine (Outcome.Same.of_eq rfl).bind fun found again equal => ?_
  subst equal
  refine (Outcome.Same.of_eq rfl).bind fun y again equal => ?_
  subst equal
  exact .ok (report_same_solution same year y found.method found.fallback)

theorem expired_constraints_ignored_iff (optimise : Optimiser α)
    (settings : FeasibilitySettings α) (u : SectorVector α) (set : ConstraintSet α)
    (context : SolveContext α) (year : Int) (dated : context.year = some year) :
    Outcome.Same FeasibilityResult.SameSolution (solve optimise settings u set context)
        (solve optimise settings u (set.during year) context) ↔
      ¬((∀ i, Scalar.isFinite (u.values.get i) = true) ∧ set.hardConflicts (some year) = [] ∧
        set.StrayCheck u.codes year context.resolution) := by
  have conflicts : (set.during year).hardConflicts context.year = set.hardConflicts context.year := by
    rw [dated, set.during_conflicts year]
  by_cases finite : ∀ i, Scalar.isFinite (u.values.get i) = true
  · by_cases consistent : set.hardConflicts context.year = []
    · rw [solve_of_consistent optimise finite consistent,
        solve_of_consistent optimise finite (conflicts.trans consistent)]
      constructor
      · rintro same ⟨-, -, check⟩
        obtain ⟨fault, misaligned, stopped⟩ := check.resolve_error
        have free : Outcome.Free Fault.Misaligned
            ((set.during year).resolve u.codes context.resolution >>=
              finish optimise settings u (set.during year) context) :=
          Outcome.free_bind check.resolve_during_free fun left =>
            finish_free (fun _ _ _ => nofun) optimise settings u _ context left
        rw [stopped] at same
        exact free fault same.other_error misaligned
      · intro unchecked
        have checked : ¬set.StrayCheck u.codes year context.resolution :=
          fun check => unchecked ⟨finite, dated ▸ consistent, check⟩
        exact (ConstraintSet.resolve_during dated checked).bind fun resolution left same =>
          finish_same optimise same year
    · refine iff_of_true ?_ fun stray => consistent (dated ▸ stray.2.1)
      rw [solve_of_conflicts optimise finite consistent,
        solve_of_conflicts optimise finite (conflicts ▸ consistent), conflicts]
      exact .error _
  · refine iff_of_true ?_ fun stray => finite stray.1
    rw [solve_of_not_finite optimise finite, solve_of_not_finite optimise finite]
    exact .error _

def expiredLabor : ConstraintSet ℚ :=
  .ofConstraints [
    .strictOn .capacityCap "S1" 40,
    { Constraint.strictOn .labor "S1" 500 with window := some (2020, 2021) }]

def jobsOutput : SectorVector ℚ := ⟨[("S1", 100)]⟩

def jobsOf (sector : String) : Coefficients ℚ :=
  ⟨.nil, ⟨[(sector, 2)]⟩, ⟨[(sector, 0)]⟩, ⟨[(sector, 0)]⟩⟩

def laterYear (coefficients : Coefficients ℚ) : SolveContext ℚ :=
  { SolveContext.bare (some coefficients) with year := some 2030 }

def refusedSector? {β : Type} (answer : Except (Fault α) β) : Option String :=
  match answer with
  | .error (.unknownSector code) => some code
  | _ => none

omit [Scalar α] in
theorem refused_sector_iff {β : Type} (answer : Except (Fault α) β) (code : String) :
    refusedSector? answer = some code ↔ answer = .error (.unknownSector code) := by
  unfold refusedSector?
  split
  · rename_i unknown
    constructor
    · intro same
      cases same
      rfl
    · intro same
      cases same
      rfl
  · rename_i other
    constructor
    · intro impossible
      cases impossible
    · intro same
      exact absurd same (other code)

theorem expired_labor_solved (coefficients : Coefficients ℚ)
    (solved : (solve simplex Settings.standard.feasibility jobsOutput
      (expiredLabor.during 2030) (laterYear coefficients)).toOption.any
        (fun r => decide (r.feasible = ⟨[("S1", 40)]⟩)) = true) :
    ∃ r, solve simplex Settings.standard.feasibility jobsOutput (expiredLabor.during 2030)
      (laterYear coefficients) = .ok r ∧ r.feasible = ⟨[("S1", 40)]⟩ := by
  obtain ⟨r, ok, feasible⟩ := (Outcome.any_ok_iff _ _).mp solved
  exact ⟨r, ok, of_decide_eq_true feasible⟩

-- The expired bound has coefficients checked that nothing in force looks at.
theorem expired_bound_refuses_coefficients :
    solve simplex Settings.standard.feasibility jobsOutput expiredLabor
        (laterYear (jobsOf "S2")) = .error (.unknownSector "S2") ∧
      (∃ r, solve simplex Settings.standard.feasibility jobsOutput (expiredLabor.during 2030)
        (laterYear (jobsOf "S2")) = .ok r ∧ r.feasible = ⟨[("S1", 40)]⟩) ∧
      ¬Outcome.Same FeasibilityResult.SameSolution
        (solve simplex Settings.standard.feasibility jobsOutput expiredLabor
          (laterYear (jobsOf "S2")))
        (solve simplex Settings.standard.feasibility jobsOutput (expiredLabor.during 2030)
          (laterYear (jobsOf "S2"))) := by
  have refused := (refused_sector_iff (solve simplex Settings.standard.feasibility jobsOutput
    expiredLabor (laterYear (jobsOf "S2"))) "S2").mp (by decide +kernel)
  obtain ⟨r, ok, feasible⟩ := expired_labor_solved (jobsOf "S2") (by decide +kernel)
  refine ⟨refused, ⟨r, ok, feasible⟩, fun same => ?_⟩
  rw [refused, ok] at same
  cases same

theorem expired_bound_with_coefficients_ignored :
    (laterYear (jobsOf "S1")).year = some 2030 ∧
      ∃ r, solve simplex Settings.standard.feasibility jobsOutput expiredLabor
        (laterYear (jobsOf "S1")) = .ok r ∧ r.feasible = ⟨[("S1", 40)]⟩ := by
  refine ⟨rfl, ?_⟩
  obtain ⟨r, ok, feasible⟩ := expired_labor_solved (jobsOf "S1") (by decide +kernel)
  have aligned : ((jobsOf "S1").align jobsOutput.codes).toOption.isSome = true := by decide +kernel
  have same := (expired_constraints_ignored_iff simplex Settings.standard.feasibility jobsOutput
    expiredLabor (laterYear (jobsOf "S1")) 2030 rfl).mpr (by
      rintro ⟨-, -, check⟩
      obtain ⟨c, fault, given, refused⟩ := check.refused
      cases given
      rw [refused] at aligned
      cases aligned)
  rw [ok] at same
  generalize solve simplex _ jobsOutput expiredLabor _ = whole at same ⊢
  cases same with
  | ok related => exact ⟨_, rfl, related.feasible.trans feasible⟩

end Feasibility

end EconomicImpact
