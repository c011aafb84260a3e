import EconomicImpact.Constraint.Resolution
import EconomicImpact.Finding

set_option autoImplicit false

namespace EconomicImpact

inductive SolveMethod
  | passthrough
  | lp
  | clipping
  deriving DecidableEq, Repr

namespace SolveMethod

def all : List SolveMethod := [passthrough, lp, clipping]

def name : SolveMethod → String
  | passthrough => "passthrough"
  | lp => "lp"
  | clipping => "clipping"

end SolveMethod

inductive FallbackReason
  | disabled
  | violates (id : Uuid)
  | failed (reason : String)
  deriving DecidableEq

def FallbackReason.text : FallbackReason → String
  | disabled => "LP solve disabled by configuration"
  | violates id => "LP solution violates hard constraint " ++ id.toText
  | failed reason => "LP solver failed: " ++ reason

def FallbackReason.warning (reason : FallbackReason) : Warning :=
  ⟨.fallbackApplied, none, "clipping fallback applied: " ++ reason.text⟩

structure BindingConstraint (α : Type) where
  source : Constraint α
  sectorCodes : List String
  bound : α
  unconstrainedValue : α
  feasibleValue : α
  gap : α
  shadowPrice : α
  relaxed : Bool
  outputGap : α
  deriving DecidableEq

structure ComplianceDiagnostic (α : Type) where
  source : Constraint α
  sectorCode : String
  targetShare : α
  observedShare : Option α
  gap : Option α
  deriving DecidableEq

structure Enabler (α : Type) where
  priorityRank : Nat
  source : Constraint α
  sectorCodes : List String
  outputUnlocked : α
  deriving DecidableEq

structure ConfidenceSummary where
  totalConstraints : Nat
  hardCount : Nat
  estimatedCount : Nat
  assumedCount : Nat
  bindingHard : Nat
  bindingEstimated : Nat
  bindingAssumed : Nat
  deriving DecidableEq

def ConfidenceSummary.ofLists (levels binding : List Confidence) : ConfidenceSummary where
  totalConstraints := levels.length
  hardCount := levels.count .hard
  estimatedCount := levels.count .estimated
  assumedCount := levels.count .assumed
  bindingHard := binding.count .hard
  bindingEstimated := binding.count .estimated
  bindingAssumed := binding.count .assumed

structure FeasibilityTotals (α : Type) where
  totalUnconstrained : α
  totalFeasible : α
  totalGap : α
  gapShare : α
  deriving DecidableEq

def FeasibilityTotals.of {α : Type} [Scalar α] (unconstrained feasible : List α) :
    FeasibilityTotals α :=
  let totalUnconstrained := Scalar.total unconstrained
  let totalFeasible := Scalar.total feasible
  let totalGap := totalFeasible - totalUnconstrained
  { totalUnconstrained
    totalFeasible
    totalGap
    gapShare :=
      if Scalar.abs totalUnconstrained < Scalar.ratio 1 (Nat.pow 10 12) then 0
      else totalGap / totalUnconstrained }

structure FeasibilityResult (α : Type) where
  unconstrainedRunId : Option Uuid
  constraintSetId : Uuid
  constraintSetVersion : Nat
  year : Option Int
  feasible : SectorVector α
  unconstrained : SectorVector α
  gap : SectorVector α
  totals : FeasibilityTotals α
  binding : List (BindingConstraint α)
  slack : List Uuid
  inactive : List Uuid
  method : SolveMethod
  fallbackUsed : Bool
  fallbackReason : Option FallbackReason
  enablers : List (Enabler α)
  diagnostics : List (ComplianceDiagnostic α)
  confidence : ConfidenceSummary
  warnings : List Warning
  deriving DecidableEq

end EconomicImpact
