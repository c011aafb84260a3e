import Mathlib
import EconomicImpact.Proofs.Feasibility.Solve
import EconomicImpact.Proofs.Reordering.Clipping

set_option autoImplicit false

namespace EconomicImpact

theorem forall₂_merge_sort {γ δ : Type} {related : γ → δ → Prop} {p : γ → γ → Bool}
    {q : δ → δ → Bool} (same : ∀ a b c d, related a c → related b d → p a b = q c d)
    {items : List γ} {others : List δ} (inStep : List.Forall₂ related items others) :
    List.Forall₂ related (items.mergeSort p) (others.mergeSort q) := by
  obtain ⟨length, each⟩ := List.forall₂_iff_zip.mp inStep
  let pairs := items.zip others
  let sorted := pairs.mergeSort fun a b => p a.1 b.1
  have firsts : sorted.map (·.1) = items.mergeSort p := by
    rw [List.map_mergeSort (s := p) fun _ _ _ _ => rfl, List.map_fst_zip length.le]
  have seconds : sorted.map (·.2) = others.mergeSort q := by
    rw [List.map_mergeSort (s := q) fun a first b second =>
      same a.1 b.1 a.2 b.2 (each first) (each second), List.map_snd_zip length.ge]
  rw [← firsts, ← seconds, List.forall₂_map_left_iff, List.forall₂_map_right_iff,
    List.forall₂_same]
  exact fun pair member => each (List.mem_mergeSort.mp member)

variable {α : Type}

structure BindingConstraint.Alike (b d : BindingConstraint α) : Prop where
  source : b.source.Alike d.source
  sectorCodes : d.sectorCodes.Perm b.sectorCodes
  bound : b.bound = d.bound
  unconstrainedValue : b.unconstrainedValue = d.unconstrainedValue
  feasibleValue : b.feasibleValue = d.feasibleValue
  gap : b.gap = d.gap
  shadowPrice : b.shadowPrice = d.shadowPrice
  relaxed : b.relaxed = d.relaxed
  outputGap : b.outputGap = d.outputGap

structure Enabler.Alike (a b : Enabler α) : Prop where
  priorityRank : a.priorityRank = b.priorityRank
  source : a.source.Alike b.source
  sectorCodes : b.sectorCodes.Perm a.sectorCodes
  outputUnlocked : a.outputUnlocked = b.outputUnlocked

structure ComplianceDiagnostic.Alike (a b : ComplianceDiagnostic α) : Prop where
  source : a.source.Alike b.source
  sectorCode : a.sectorCode = b.sectorCode
  targetShare : a.targetShare = b.targetShare
  observedShare : a.observedShare = b.observedShare
  gap : a.gap = b.gap

structure FeasibilityResult.Alike (a b : FeasibilityResult α) : Prop where
  constraintSetId : a.constraintSetId = b.constraintSetId
  constraintSetVersion : a.constraintSetVersion = b.constraintSetVersion
  year : a.year = b.year
  feasible : a.feasible.Alike b.feasible
  unconstrained : a.unconstrained.Alike b.unconstrained
  gap : a.gap.Alike b.gap
  totals : a.totals = b.totals
  binding : List.Forall₂ BindingConstraint.Alike a.binding b.binding
  slack : a.slack = b.slack
  inactive : a.inactive = b.inactive
  method : a.method = b.method
  fallbackUsed : a.fallbackUsed = b.fallbackUsed
  fallbackReason : a.fallbackReason = b.fallbackReason
  warnings : a.warnings = b.warnings
  enablers : List.Forall₂ Enabler.Alike a.enablers b.enablers
  diagnostics : ∃ listed : List (ComplianceDiagnostic α), listed.Perm a.diagnostics ∧
    List.Forall₂ ComplianceDiagnostic.Alike listed b.diagnostics
  confidence : a.confidence = b.confidence

structure SolveContext.Alike (c d : SolveContext α) : Prop where
  year : c.year = d.year
  baseOutput : Option.Rel SectorVector.Alike c.baseOutput d.baseOutput
  coefficients : Option.Rel Coefficients.Alike c.coefficients d.coefficients
  nationalShare : Option.Rel SectorVector.Alike c.nationalShare d.nationalShare

theorem SolveContext.Alike.resolution {c d : SolveContext α} (alike : c.Alike d) :
    c.resolution.Alike d.resolution :=
  ⟨alike.year, alike.baseOutput, alike.coefficients⟩

theorem FeasibilityResult.Alike.binding_ids {a b : FeasibilityResult α} (alike : a.Alike b) :
    a.binding.map (·.source.id) = b.binding.map (·.source.id) :=
  Outcome.map_eq_of_related (alike.binding.imp fun _ _ same => same.source.id_eq)

namespace Feasibility

variable {n m : Nat} {order : Vector String n} {other : Vector String m}
  {r : Reordering order other} {K : Type} [Field K] [LinearOrder K]

section bounds

variable {b : Bound K n} {d : Bound K m} (moved : b.Moved r d) {u y : Vector K n}
  {v z : Vector K m} (tolerance : K)

include moved

theorem is_relaxed_eq (carries : r.Carries y z) :
    isRelaxed tolerance y b = isRelaxed tolerance z d := by
  rw [isRelaxed, isRelaxed, moved.hard_eq, moved.violation_eq carries]

theorem is_binding_eq (carries : r.Carries y z) :
    isBinding tolerance y b = isBinding tolerance z d := by
  rw [isBinding, isBinding, is_relaxed_eq moved tolerance carries, moved.lhs_eq carries, moved.limit]

theorem binding_entry_alike (start : r.Carries u v) (carries : r.Carries y z) :
    (bindingEntry tolerance order u y b).Alike (bindingEntry tolerance other v z d) where
  source := moved.source
  sectorCodes := by
    have codes := moved.sectors_perm.map order.get
    rw [List.map_map] at codes
    rwa [bindingEntry, List.map_congr_left fun j _ => r.codes j]
  bound := moved.limit
  unconstrainedValue := (moved.lhs_eq start).symm
  feasibleValue := (moved.lhs_eq carries).symm
  gap := congrArg₂ (· - ·) (moved.lhs_eq carries).symm (moved.lhs_eq start).symm
  shadowPrice := (moved.violation_eq start).symm
  relaxed := is_relaxed_eq moved tolerance carries
  outputGap := by
    have changes := (moved.sectors_perm.map fun i => y.get i - u.get i).sum_eq
    rw [List.map_map] at changes
    simp only [bindingEntry, Scalar.total_eq_sum, start _, carries _]
    exact changes.symm

end bounds

theorem enablers_alike (tolerance : K) {binding others : List (BindingConstraint K)}
    (alike : List.Forall₂ BindingConstraint.Alike binding others) :
    List.Forall₂ Enabler.Alike (enablers tolerance binding) (enablers tolerance others) := by
  have holding := List.rel_filter
    (p := fun b => b.source.kind.sense == some .upper && decide (tolerance < -b.outputGap))
    (q := fun b => b.source.kind.sense == some .upper && decide (tolerance < -b.outputGap))
    (fun b d same => Bool.eq_iff_iff.mp (by rw [same.source.kind_eq, same.outputGap])) alike
  have sorted := forall₂_merge_sort
    (p := fun a b => Scalar.precedes a.outputGap b.outputGap)
    (q := fun a b => Scalar.precedes a.outputGap b.outputGap)
    (fun a b c d first second => by rw [first.outputGap, second.outputGap]) holding
  unfold enablers
  obtain ⟨length, each⟩ := List.forall₂_iff_get.mp sorted
  refine List.forall₂_iff_get.mpr ⟨by simpa using length, fun i here there => ?_⟩
  rw [List.length_mapIdx] at here there
  have same := each i here there
  simp only [List.get_eq_getElem, List.getElem_mapIdx] at same ⊢
  exact ⟨rfl, same.source, same.sectorCodes, congrArg (-·) same.outputGap⟩

theorem diagnostics_alike {shares again : Option (SectorVector K)}
    (alike : Option.Rel SectorVector.Alike shares again) {targets : List (ShareTarget K n)}
    {others : List (ShareTarget K m)} (moved : List.Forall₂ (ShareTarget.Moved r) targets others) :
    ∃ listed : List (ComplianceDiagnostic K), listed.Perm (diagnostics order shares targets) ∧
      List.Forall₂ ComplianceDiagnostic.Alike listed (diagnostics other again others) := by
  have observed (j : Fin m) : shares.bind (·.get? (order.get (r.place j))) =
      again.bind (·.get? (other.get j)) := by
    cases alike with
    | none => rfl
    | some alike => exact (alike.get_eq _).trans (congrArg _ (r.codes j).symm)
  unfold diagnostics
  induction moved with
  | nil => exact ⟨[], .nil, .nil⟩
  | @cons t u rest later head _ ih =>
      obtain ⟨listed, perm, each⟩ := ih
      refine ⟨_, (head.sectors.map _).append perm, List.rel_append ?_ each⟩
      rw [List.map_map, List.forall₂_map_left_iff, List.forall₂_map_right_iff, List.forall₂_same]
      intro j _
      exact ⟨head.source, (r.codes j).symm, head.source.value_eq, observed j,
        congrArg₂ (fun value share => Option.map (value - ·) share) head.source.value_eq (observed j)⟩

theorem report_alike (settings : FeasibilitySettings K) {u v : SectorVector K}
    (changes : u.Alike v) (r : Reordering u.codes v.codes) (start : r.Carries u.values v.values)
    {set again : ConstraintSet K} (sets : set.Alike again) {context later : SolveContext K}
    (contexts : context.Alike later) {resolution : Resolution K u.size}
    {outcome : Resolution K v.size} (moved : resolution.Moved r outcome)
    {y : Vector K u.size} {z : Vector K v.size} (carries : r.Carries y z) (method : SolveMethod)
    (fallback : Option FallbackReason) :
    (report settings u set context resolution y method fallback).Alike
      (report settings v again later outcome z method fallback) := by
  have binding : List.Forall₂ BindingConstraint.Alike
      (report settings u set context resolution y method fallback).binding
      (report settings v again later outcome z method fallback).binding :=
    List.rel_map (fun b d here => binding_entry_alike here _ start carries)
      (List.rel_filter (fun b d here => Bool.eq_iff_iff.mp (is_binding_eq here _ carries))
        moved.active)
  have levels : set.constraints.map (·.confidence) = again.constraints.map (·.confidence) :=
    Outcome.map_eq_of_related (sets.constraints.imp fun _ _ same => same.confidence_eq)
  exact {
    constraintSetId := sets.id
    constraintSetVersion := sets.version
    year := contexts.year
    feasible := SectorVector.of_aligned_alike r carries
    unconstrained := changes
    gap := SectorVector.of_aligned_alike r (carries.zipWith _ start)
    totals := by
      simp only [report, FeasibilityTotals.of, start.total_eq, carries.total_eq]
    binding
    slack := Outcome.map_eq_of_related (List.Forall₂.imp (fun _ _ here => here.source.id_eq)
      (List.rel_filter (fun b d here => Bool.eq_iff_iff.mp
        (congrArg (!·) (is_binding_eq here _ carries))) moved.active))
    inactive := moved.inactive
    method := rfl
    fallbackUsed := rfl
    fallbackReason := rfl
    warnings := rfl
    enablers := enablers_alike _ binding
    diagnostics := diagnostics_alike contexts.nationalShare moved.diagnostics
    confidence := congrArg₂ ConfidenceSummary.ofLists levels
      (Outcome.map_eq_of_related (binding.imp fun _ _ same => same.source.confidence_eq)) }

variable (r) in
structure Candidate.Carried (c : Candidate K n) (d : Candidate K m) : Prop where
  values : r.Carries c.values d.values
  method : c.method = d.method
  fallback : c.fallback = d.fallback

theorem candidate_carried [IsStrictOrderedRing K] (optimise : Optimiser K)
    {settings : FeasibilitySettings K} (disabled : settings.lpEnabled = false)
    {u : Vector K n} {v : Vector K m} (start : r.Carries u v) {bounds : List (Bound K n)}
    {others : List (Bound K m)} (moved : MovedBounds r bounds others) :
    Outcome.Matched (Candidate.Carried r) (candidate optimise settings u bounds)
      (candidate optimise settings v others) := by
  unfold candidate
  rw [disabled]
  cases moved with
  | nil => exact .ok ⟨start, rfl, rfl⟩
  | cons head rest => exact .ok ⟨MovedBounds.clip_carries (.cons head rest) start, rfl, rfl⟩

theorem settle_carried (tolerance : K) {u : Vector K n} {v : Vector K m} (start : r.Carries u v)
    {bounds : List (Bound K n)} {others : List (Bound K m)} (moved : MovedBounds r bounds others)
    {c : Candidate K n} {d : Candidate K m} (carried : c.Carried r d) :
    Outcome.Matched r.Carries (settle tolerance u bounds c) (settle tolerance v others d) := by
  have carries := moved.tidy_carries tolerance start carried.values
  have missed := moved.hard_violations_eq tolerance carries
  simp only [settle, ← carried.method, ← missed]
  by_cases refused : c.method = .clipping ∧
      hardViolations tolerance (tidy tolerance u bounds c.values) bounds ≠ []
  · rw [if_pos refused, if_pos refused]
    exact .error _ _
  · rw [if_neg refused, if_neg refused]
    exact .ok carries

theorem solve_alike [IsStrictOrderedRing K] (optimise : Optimiser K)
    {settings : FeasibilitySettings K} (disabled : settings.lpEnabled = false)
    {u v : SectorVector K} (changes : u.Alike v) {set again : ConstraintSet K}
    (sets : set.Alike again) {context later : SolveContext K} (contexts : context.Alike later) :
    Outcome.Matched FeasibilityResult.Alike (solve optimise settings u set context)
      (solve optimise settings v again later) := by
  obtain ⟨r, start⟩ := changes.reordering
  have finite {k : Nat} (values : Vector K k) :
      (values.toList.any fun a => !Scalar.isFinite a) = false :=
    List.any_eq_false.mpr fun a _ => by simp
  have conflicts : set.hardConflicts context.year = again.hardConflicts later.year := by
    rw [sets.hard_conflicts, contexts.year]
  simp only [solve, finite, Bool.false_eq_true, if_false, ← conflicts]
  cases set.hardConflicts context.year with
  | cons first rest => exact .error _ _
  | nil =>
      have resolved := (sets.resolve r contexts.resolution).of_left fun resolution found b =>
        set.active_sound _ _ resolution found b
      refine resolved.bind fun resolution outcome ⟨moved, sound⟩ => ?_
      have bounds : MovedBounds r resolution.active outcome.active :=
        (List.forall₂_and_left _ _).mpr ⟨sound, moved.active⟩
      refine (candidate_carried optimise disabled start bounds).bind fun c d carried => ?_
      refine (settle_carried _ start bounds carried).bind fun y z carries => ?_
      rw [← carried.method, ← carried.fallback]
      exact .ok (report_alike settings changes r start sets contexts moved carries _ _)

end Feasibility

end EconomicImpact
