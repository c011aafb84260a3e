import Mathlib
import EconomicImpact.Feasibility.Simplex
import EconomicImpact.Proofs.Constraint.Resolution
import EconomicImpact.Proofs.Feasibility.Solve
import EconomicImpact.Proofs.Scalar.Exact

set_option autoImplicit false

namespace EconomicImpact

variable {α : Type} {n : Nat}

theorem ConstraintKind.sense_none_iff (kind : ConstraintKind) :
    kind.sense = none ↔ kind = .saudization := by
  cases kind <;> decide

theorem Confidence.count_levels (levels : List Confidence) :
    levels.count .hard + levels.count .estimated + levels.count .assumed = levels.length := by
  induction levels with
  | nil => rfl
  | cons level rest ih =>
      cases level <;> simp only [List.count_cons, List.length_cons] <;> simp <;> omega

namespace ConfidenceSummary

def constraintsAt (summary : ConfidenceSummary) : Confidence → Nat
  | .hard => summary.hardCount
  | .estimated => summary.estimatedCount
  | .assumed => summary.assumedCount

def bindingAt (summary : ConfidenceSummary) : Confidence → Nat
  | .hard => summary.bindingHard
  | .estimated => summary.bindingEstimated
  | .assumed => summary.bindingAssumed

theorem of_lists_at (levels binding : List Confidence) (level : Confidence) :
    (ofLists levels binding).constraintsAt level = levels.count level ∧
      (ofLists levels binding).bindingAt level = binding.count level := by
  cases level <;> exact ⟨rfl, rfl⟩

end ConfidenceSummary

namespace Feasibility

inductive Place (α : Type) (n : Nat)
  | binding (b : Bound α n)
  | slack (b : Bound α n)
  | inactive
  | diagnostic (sectors : List (Fin n))

namespace Place

def asSlack (c : Constraint α) : Place α n → List Uuid
  | slack _ => [c.id]
  | _ => []

def asInactive (c : Constraint α) : Place α n → List Uuid
  | inactive => [c.id]
  | _ => []

def asDiagnostics (order : Vector String n) (c : Constraint α) :
    Place α n → List (Constraint α × String)
  | diagnostic sectors => sectors.map fun i => (c, order.get i)
  | _ => []

variable [Scalar α]

def asBinding (tolerance : α) (y : Vector α n) (c : Constraint α) :
    Place α n → List (Constraint α × Bool)
  | binding b => [(c, !c.isHard && decide (tolerance < b.violation y))]
  | _ => []

-- The place that a constraint must have. Outside its window it is set aside, and so is one of whose weights
-- none is positive; a share target is reported, and any other constraint is a bound that binds or not.
def Fits (tolerance : α) (y : Vector α n) (order : Vector String n) (year : Option Int)
    (base : Option (Vector α n)) (coefficients : Option (AlignedCoefficients α n))
    (c : Constraint α) : Place α n → Prop
  | binding b => c.appliesIn year = true ∧ c.Enforced order base coefficients b ∧
      isBinding tolerance y b = true
  | slack b => c.appliesIn year = true ∧ c.Enforced order base coefficients b ∧
      isBinding tolerance y b = false
  | inactive => c.appliesIn year = true → c.kind ≠ .saudization ∧
      ∃ sectors weights, c.scope.indices order = .ok sectors ∧
        c.weights coefficients sectors = .ok weights ∧ ∀ w ∈ weights, ¬0 < w
  | diagnostic sectors => c.appliesIn year = true ∧ c.kind = .saudization ∧
      sectors ≠ [] ∧ sectors.Nodup ∧ ∀ i, i ∈ sectors ↔ c.scope.covers order i = true

end Place

def inOrder {β : Type} (constraints : List (Constraint α)) (places : List (Place α n))
    (lists : Constraint α → Place α n → List β) : List β :=
  (constraints.zipWith lists places).flatten

theorem in_order_of_outcomes {β : Type} {constraints : List (Constraint α)}
    {outcomes : List (Resolved α n)} {related : Constraint α → Resolved α n → Prop}
    (each : List.Forall₂ related constraints outcomes) (place : Resolved α n → Place α n)
    (reads : Resolved α n → List β) (lists : Constraint α → Place α n → List β)
    (agree : ∀ c outcome, related c outcome → reads outcome = lists c (place outcome)) :
    outcomes.flatMap reads = inOrder constraints (outcomes.map place) lists := by
  induction each with
  | nil => rfl
  | cons first _ ih =>
      rw [List.flatMap_cons, ih, agree _ _ first]
      rfl

theorem active_flat_map {β : Type} (outcomes : List (Resolved α n)) (keep : Bound α n → Bool)
    (entry : Bound α n → β) :
    ((Resolution.ofList outcomes).active.filter keep).map entry =
      outcomes.flatMap fun
        | .active b => if keep b then [entry b] else []
        | _ => [] := by
  induction outcomes with
  | nil => rfl
  | cons outcome rest ih =>
      rw [List.flatMap_cons, ← ih]
      cases outcome with
      | active b => cases kept : keep b <;> simp [Resolution.ofList, kept]
      | inactive id => rfl
      | diagnostic target => rfl

theorem inactive_flat_map (outcomes : List (Resolved α n)) :
    (Resolution.ofList outcomes).inactive =
      outcomes.flatMap fun
        | .inactive id => [id]
        | _ => [] := by
  induction outcomes with
  | nil => rfl
  | cons outcome rest ih =>
      rw [List.flatMap_cons, ← ih]
      cases outcome <;> rfl

theorem diagnostics_flat_map {β : Type} (outcomes : List (Resolved α n))
    (records : ShareTarget α n → List β) :
    (Resolution.ofList outcomes).diagnostics.flatMap records =
      outcomes.flatMap fun
        | .diagnostic target => records target
        | _ => [] := by
  induction outcomes with
  | nil => rfl
  | cons outcome rest ih =>
      rw [List.flatMap_cons, ← ih]
      cases outcome <;> rfl

variable [Scalar α]

def place (tolerance : α) (y : Vector α n) : Resolved α n → Place α n
  | .active b => if isBinding tolerance y b then .binding b else .slack b
  | .inactive _ => .inactive
  | .diagnostic target => .diagnostic target.sectors

section outcome

variable {tolerance : α} {y : Vector α n} {c : Constraint α} {order : Vector String n}
  {year : Option Int} {base : Option (Vector α n)}
  {coefficients : Option (AlignedCoefficients α n)} {outcome : Resolved α n}

variable (tolerance y) in
theorem resolve_cases (resolved : c.resolve order year base coefficients = .ok outcome) :
    (∃ b, outcome = .active b ∧ c.appliesIn year = true ∧
        c.Enforced order base coefficients b) ∨
      (outcome = .inactive c.id ∧
        (Place.inactive : Place α n).Fits tolerance y order year base coefficients c) ∨
      ∃ sectors, outcome = .diagnostic ⟨c, sectors⟩ ∧
        (Place.diagnostic sectors).Fits tolerance y order year base coefficients c := by
  by_cases inForce : c.appliesIn year = true
  · rw [c.resolve_in_force order base coefficients year inForce] at resolved
    cases direction : c.kind.sense with
    | none =>
        obtain ⟨sectors, covering, found, rfl⟩ :=
          c.resolve_in_force_reported order base coefficients direction _ resolved
        refine .inr (.inr ⟨sectors, rfl, inForce, c.kind.sense_none_iff.mp direction, covering,
          Constraint.indices_nodup order c.scope sectors found, ?_⟩)
        intro i
        simp [Constraint.indices_eq_covered order c.scope sectors found]
    | some sense =>
        obtain ⟨sectors, weights, terms, -, found, weighted, rfl, ending⟩ :=
          c.resolve_in_force_cases order base coefficients sense direction _ resolved
        rcases ending with ⟨empty, rfl⟩ | ⟨-, limit, -, rfl⟩
        · refine .inr (.inl ⟨rfl, fun _ => ⟨?_, sectors, weights, found, weighted, ?_⟩⟩)
          · intro reported
            rw [reported] at direction
            cases direction
          · have length := c.weights_length coefficients sectors weights weighted
            have all : (sectors.zip weights).map (·.2) = weights :=
              List.map_snd_zip (Nat.le_of_eq length)
            intro w member
            rw [← all] at member
            obtain ⟨t, listed, rfl⟩ := List.mem_map.mp member
            simpa using List.filter_eq_nil_iff.mp empty t listed
        · exact .inl ⟨_, rfl, inForce,
            c.resolve_in_force_active order base coefficients _ resolved⟩
  · rw [Constraint.resolve, if_neg inForce] at resolved
    cases resolved
    exact .inr (.inl ⟨rfl, fun applies => absurd applies inForce⟩)

theorem place_fits (resolved : c.resolve order year base coefficients = .ok outcome) :
    (place tolerance y outcome).Fits tolerance y order year base coefficients c := by
  rcases resolve_cases tolerance y resolved with
    ⟨b, rfl, inForce, enforced⟩ | ⟨rfl, fits⟩ | ⟨sectors, rfl, fits⟩
  · cases binding : isBinding tolerance y b with
    | true =>
        rw [place, if_pos binding]
        exact ⟨inForce, enforced, binding⟩
    | false =>
        rw [place, if_neg (by simp [binding])]
        exact ⟨inForce, enforced, binding⟩
  · exact fits
  · exact fits

end outcome

theorem not_relaxed_of_slack {tolerance : α} {y : Vector α n} {outcomes : List (Resolved α n)}
    (b : Bound α n) (listed : .slack b ∈ outcomes.map (place tolerance y)) :
    isRelaxed tolerance y b = false := by
  obtain ⟨outcome, -, same⟩ := List.mem_map.mp listed
  cases outcome with
  | active c =>
      cases binding : isBinding tolerance y c with
      | true => simp [place, binding] at same
      | false =>
          rw [place, if_neg (by simp [binding])] at same
          cases same
          exact (Bool.or_eq_false_iff.mp binding).1
  | inactive id => cases same
  | diagnostic target => cases same

section report

variable {settings : FeasibilitySettings α} {u : SectorVector α} {set : ConstraintSet α}
  {context : SolveContext α} {y : Vector α u.size} {base : Option (Vector α u.size)}
  {coefficients : Option (AlignedCoefficients α u.size)} {outcomes : List (Resolved α u.size)}
  {method : SolveMethod} {fallback : Option FallbackReason}
  (each : List.Forall₂
    (fun c outcome => c.resolve u.codes context.year base coefficients = .ok outcome)
    set.constraints outcomes)

include each

theorem report_binding :
    (report settings u set context (.ofList outcomes) y method fallback).binding.map
        (fun entry => (entry.source, entry.relaxed)) =
      inOrder set.constraints (outcomes.map (place settings.bindingTolerance y))
        (Place.asBinding settings.bindingTolerance y) := by
  simp only [report, List.map_map]
  rw [active_flat_map]
  refine in_order_of_outcomes each _ _ _ fun c outcome resolved => ?_
  rcases resolve_cases settings.bindingTolerance y resolved with
    ⟨b, rfl, -, enforced⟩ | ⟨rfl, -⟩ | ⟨sectors, rfl, -⟩
  · cases binding : isBinding settings.bindingTolerance y b <;>
      simp [place, binding, Place.asBinding, bindingEntry, isRelaxed, Bound.isHard, enforced.source]
  · rfl
  · rfl

theorem report_slack :
    (report settings u set context (.ofList outcomes) y method fallback).slack =
      inOrder set.constraints (outcomes.map (place settings.bindingTolerance y))
        Place.asSlack := by
  simp only [report]
  rw [active_flat_map]
  refine in_order_of_outcomes each _ _ _ fun c outcome resolved => ?_
  rcases resolve_cases settings.bindingTolerance y resolved with
    ⟨b, rfl, -, enforced⟩ | ⟨rfl, -⟩ | ⟨sectors, rfl, -⟩
  · cases binding : isBinding settings.bindingTolerance y b <;>
      simp [place, binding, Place.asSlack, Bound.id, enforced.source]
  · rfl
  · rfl

theorem report_inactive :
    (report settings u set context (.ofList outcomes) y method fallback).inactive =
      inOrder set.constraints (outcomes.map (place settings.bindingTolerance y))
        Place.asInactive := by
  simp only [report]
  rw [inactive_flat_map]
  refine in_order_of_outcomes each _ _ _ fun c outcome resolved => ?_
  rcases resolve_cases settings.bindingTolerance y resolved with
    ⟨b, rfl, -, -⟩ | ⟨rfl, -⟩ | ⟨sectors, rfl, -⟩
  · cases binding : isBinding settings.bindingTolerance y b <;>
      simp [place, binding, Place.asInactive]
  · rfl
  · rfl

theorem report_diagnostics :
    (report settings u set context (.ofList outcomes) y method fallback).diagnostics.map
        (fun record => (record.source, record.sectorCode)) =
      inOrder set.constraints (outcomes.map (place settings.bindingTolerance y))
        (Place.asDiagnostics u.codes) := by
  simp only [report, diagnostics, List.map_flatMap, List.map_map]
  rw [diagnostics_flat_map]
  refine in_order_of_outcomes each _ _ _ fun c outcome resolved => ?_
  rcases resolve_cases settings.bindingTolerance y resolved with
    ⟨b, rfl, -, -⟩ | ⟨rfl, -⟩ | ⟨sectors, rfl, -⟩
  · cases binding : isBinding settings.bindingTolerance y b <;>
      simp [place, binding, Place.asDiagnostics]
  · rfl
  · rfl

end report

theorem solve_reports_each_constraint_once {optimise : Optimiser α}
    {settings : FeasibilitySettings α} {u : SectorVector α} {set : ConstraintSet α}
    {context : SolveContext α} (r : FeasibilityResult α)
    (solved : solve optimise settings u set context = .ok r) :
    ∃ (y : Vector α u.size) (places : List (Place α u.size)),
      r.feasible = .ofAligned u.codes y ∧
      (∃ base coefficients, set.Prepared u.codes context.resolution base coefficients ∧
        List.Forall₂
          (fun c place =>
            place.Fits settings.bindingTolerance y u.codes context.year base coefficients c)
          set.constraints places) ∧
      r.binding.map (fun entry => (entry.source, entry.relaxed)) =
        inOrder set.constraints places (Place.asBinding settings.bindingTolerance y) ∧
      r.slack = inOrder set.constraints places Place.asSlack ∧
      r.inactive = inOrder set.constraints places Place.asInactive ∧
      r.diagnostics.map (fun record => (record.source, record.sectorCode)) =
        inOrder set.constraints places (Place.asDiagnostics u.codes) ∧
      (∀ b, .slack b ∈ places →
        b.isHard = true ∨ ¬settings.bindingTolerance < b.violation y) ∧
      r.confidence.totalConstraints = set.constraints.length ∧
      r.confidence.hardCount + r.confidence.estimatedCount + r.confidence.assumedCount =
        r.confidence.totalConstraints ∧
      ∀ level,
        r.confidence.constraintsAt level = set.constraints.countP (·.confidence == level) ∧
        r.confidence.bindingAt level = r.binding.countP (·.source.confidence == level) := by
  obtain ⟨resolution, found, y, stages, rfl⟩ := (solve_ok_iff _ _ _ _ _ _).mp solved
  obtain ⟨base, coefficients, outcomes, prepared, mapped, rfl⟩ :=
    set.resolve_prepared u.codes _ resolution stages.resolved
  have each := (Outcome.mapM_ok_iff _ _ _).mp mapped
  refine ⟨y, outcomes.map (place settings.bindingTolerance y), rfl,
    ⟨base, coefficients, prepared, ?_⟩, report_binding each, report_slack each,
    report_inactive each, report_diagnostics each, ?_, ?_, ?_, ?_⟩
  · rw [List.forall₂_map_right_iff]
    exact each.imp fun _ _ resolved => place_fits resolved
  · intro b listed
    have unrelaxed := not_relaxed_of_slack b listed
    by_contra relaxed
    rw [not_or, not_not, Bool.not_eq_true] at relaxed
    simp [isRelaxed, relaxed.1, relaxed.2] at unrelaxed
  · exact List.length_map ..
  · exact Confidence.count_levels _
  · intro level
    obtain ⟨constraints, binding⟩ := ConfidenceSummary.of_lists_at
      (set.constraints.map (·.confidence))
      ((report settings u set context (.ofList outcomes) y found.method found.fallback).binding.map
        (·.source.confidence)) level
    rw [List.count, List.countP_map] at constraints binding
    exact ⟨constraints, binding⟩

-- Every place occurs: a cap given twice, one that is loose, one outside its window, a target on a group that
-- names a sector twice, a bound on jobs where there are none, a soft floor above the cap. All share one
-- identifier.
def mixedOutput : SectorVector ℚ := ⟨[("A", 60), ("B", 3), ("C", 7)]⟩

def mixedSet : ConstraintSet ℚ :=
  .ofConstraints [.strictOn .capacityCap "A" 40, .strictOn .capacityCap "B" 50,
    { Constraint.strictOn .capacityCap "A" 10 with window := some (2030, 2031) },
    { Constraint.strictOn .saudization "A" (3 / 10) with scope := .group ["C", "A", "C"] },
    .strictOn .labor "B" 5, .strictOn .capacityCap "A" 40,
    { Constraint.strictOn .floor "A" 45 with confidence := .estimated }]

def mixedContext : SolveContext ℚ :=
  { SolveContext.bare (some (.zeros ["A", "B", "C"])) with year := some 2025 }

theorem mixed_set_reported_once :
    ∃ (r : FeasibilityResult ℚ) (y : Vector ℚ mixedOutput.size)
      (places : List (Place ℚ mixedOutput.size)),
      solve simplex Settings.standard.feasibility mixedOutput mixedSet mixedContext = .ok r ∧
      places.length = 7 ∧
      (r.binding.map (·.relaxed) = [false, false, true] ∧ r.slack.length = 1 ∧
        r.inactive.length = 2 ∧ r.diagnostics.map (·.sectorCode) = ["A", "C"]) ∧
      r.binding.map (fun entry => (entry.source, entry.relaxed)) =
        inOrder mixedSet.constraints places
          (Place.asBinding Settings.standard.feasibility.bindingTolerance y) ∧
      r.slack = inOrder mixedSet.constraints places Place.asSlack ∧
      r.inactive = inOrder mixedSet.constraints places Place.asInactive ∧
      r.diagnostics.map (fun record => (record.source, record.sectorCode)) =
        inOrder mixedSet.constraints places (Place.asDiagnostics mixedOutput.codes) := by
  have facts : (solve simplex Settings.standard.feasibility mixedOutput mixedSet
      mixedContext).toOption.any (fun r => decide (
        r.binding.map (·.relaxed) = [false, false, true] ∧ r.slack.length = 1 ∧
          r.inactive.length = 2 ∧ r.diagnostics.map (·.sectorCode) = ["A", "C"])) = true := by
    decide +kernel
  obtain ⟨r, solved, counted⟩ := (Outcome.any_ok_iff _ _).mp facts
  obtain ⟨y, places, -, ⟨base, coefficients, -, each⟩, binding, slack, inactive, diagnostics, -⟩ :=
    solve_reports_each_constraint_once r solved
  exact ⟨r, y, places, solved, each.length_eq.symm, of_decide_eq_true counted, binding, slack,
    inactive, diagnostics⟩

end Feasibility

end EconomicImpact
