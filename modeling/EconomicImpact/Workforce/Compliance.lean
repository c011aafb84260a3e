import EconomicImpact.Workforce.Tier

set_option autoImplicit false

namespace EconomicImpact

structure BaselineWorkforce (α : Type) where
  sectorCode : String
  totalEmployment : α
  nationalEmployment : Option α
  deriving BEq, DecidableEq

structure ShareGoal (α : Type) where
  sectorCode : String
  effective : α
  low : α
  high : α
  deriving BEq, DecidableEq

inductive ComplianceStatus
  | compliant
  | atRisk
  | nonCompliant
  | noTarget
  | insufficientData
  deriving DecidableEq, Repr

namespace ComplianceStatus

def all : List ComplianceStatus := [compliant, atRisk, nonCompliant, noTarget, insufficientData]

def name : ComplianceStatus → String
  | compliant => "COMPLIANT"
  | atRisk => "AT_RISK"
  | nonCompliant => "NON_COMPLIANT"
  | noTarget => "NO_TARGET"
  | insufficientData => "INSUFFICIENT_DATA"

end ComplianceStatus

structure ComplianceCheck (α : Type) where
  status : ComplianceStatus
  goal : Option (ShareGoal α)
  projected : Option (Band α)
  gap : Option (Band α)
  gapJobs : Option α
  deriving DecidableEq

variable {α : Type} [Scalar α]

def projectedShares (baseNational postTotal : α) (nationalJobs : Band α) : Band α :=
  let share (jobs : α) := (baseNational + jobs) / postTotal
  ⟨share nationalJobs.min, share nationalJobs.mid, share nationalJobs.max⟩

def ShareGoal.status (goal : ShareGoal α) (projected : Band α) : ComplianceStatus :=
  if goal.high ≤ projected.min then .compliant
  else if projected.max < goal.low then .nonCompliant
  else .atRisk

def checkCompliance (totalJobs : α) (nationalJobs : Band α)
    (baseline : Option (BaselineWorkforce α)) (goal : Option (ShareGoal α)) : ComplianceCheck α :=
  match goal, baseline with
  | none, _ => ⟨.noTarget, none, none, none, none⟩
  | some goal, none => ⟨.insufficientData, some goal, none, none, none⟩
  | some goal, some baseline =>
    let postTotal := baseline.totalEmployment + totalJobs
    if postTotal ≤ 0 then ⟨.insufficientData, some goal, none, none, none⟩
    else
      let projected := projectedShares (baseline.nationalEmployment.getD 0) postTotal nationalJobs
      { status := goal.status projected
        goal := some goal
        projected := some projected
        gap := some ⟨goal.effective - projected.max, goal.effective - projected.mid,
          goal.effective - projected.min⟩
        gapJobs := some (Scalar.larger ((goal.effective - projected.mid) * postTotal) 0) }

end EconomicImpact
