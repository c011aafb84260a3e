import EconomicImpact.Settings
import EconomicImpact.Workforce.Bridge
import EconomicImpact.Workforce.Compliance

set_option autoImplicit false

namespace EconomicImpact

structure Classification (α : Type) where
  sectorCode : String
  occupationCode : String
  tier : NationalityTier
  currentShare : Option α
  rationale : String
  deriving BEq, DecidableEq

structure Classifications (α : Type) where
  version : String
  entries : List (Classification α)
  deriving BEq, DecidableEq

def Classifications.get? {α : Type} (cs : Classifications α) (sector occupation : String) :
    Option (Classification α) :=
  cs.entries.find? fun c => c.sectorCode == sector && c.occupationCode == occupation

structure WorkforceInputs (α : Type) where
  bridge : OccupationBridge α
  classifications : Classifications α
  goals : List (ShareGoal α)
  baseline : List (BaselineWorkforce α)
  deriving BEq, DecidableEq

namespace WorkforceInputs

variable {α : Type}

def goal? (inputs : WorkforceInputs α) (sector : String) : Option (ShareGoal α) :=
  inputs.goals.reverse.find? (·.sectorCode == sector)

def baseline? (inputs : WorkforceInputs α) (sector : String) : Option (BaselineWorkforce α) :=
  inputs.baseline.reverse.find? (·.sectorCode == sector)

def baselineShares [Scalar α] (inputs : WorkforceInputs α) : Except (Fault α) (SectorVector α) :=
  SectorVector.ofPairs (inputs.baseline.filterMap fun b =>
    match b.nationalEmployment with
    | some national =>
      if 0 < b.totalEmployment then some (b.sectorCode, national / b.totalEmployment) else none
    | none => none)

end WorkforceInputs

inductive DeltaSource
  | unconstrained
  | feasible
  deriving DecidableEq, Repr

namespace DeltaSource

def all : List DeltaSource := [unconstrained, feasible]

def name : DeltaSource → String
  | unconstrained => "unconstrained"
  | feasible => "feasible"

end DeltaSource

structure WorkforceKey where
  runId : Uuid
  coefficientsVersionId : Uuid
  source : DeltaSource
  deriving DecidableEq

def WorkforceKey.text (key : WorkforceKey) : String :=
  key.runId.toText ++ ":" ++ key.coefficientsVersionId.toText ++ ":" ++ key.source.name

structure NationalitySplit (α : Type) where
  sectorCode : String
  occupationCode : String
  tier : NationalityTier
  totalJobs : α
  nationalJobs : Band α
  currentShare : Option α
  assumed : Bool
  rationale : String
  deriving DecidableEq

structure TierJobs (α : Type) where
  tier : NationalityTier
  jobs : α
  nationalJobs : Band α
  gap : Option α
  deriving DecidableEq

structure SectorWorkforce (α : Type) where
  sectorCode : String
  totalJobs : α
  nationalJobs : Band α
  tiers : List (TierJobs α)
  compliance : ComplianceCheck α
  trainingGapOccupations : List String
  deriving DecidableEq

structure TrainingGap (α : Type) where
  sectorCode : String
  occupationCode : String
  totalJobs : α
  gapJobs : α
  target : Option α
  deriving DecidableEq

structure ComplianceCounts where
  compliant : Nat
  atRisk : Nat
  nonCompliant : Nat
  noTarget : Nat
  insufficientData : Nat
  deriving DecidableEq

def ComplianceCounts.ofList (statuses : List ComplianceStatus) : ComplianceCounts where
  compliant := statuses.count .compliant
  atRisk := statuses.count .atRisk
  nonCompliant := statuses.count .nonCompliant
  noTarget := statuses.count .noTarget
  insufficientData := statuses.count .insufficientData

structure WorkforceResult (α : Type) where
  key : WorkforceKey
  bridgeVersion : String
  classificationVersion : String
  sectors : List (SectorWorkforce α)
  occupations : List (OccupationImpact α)
  splits : List (NationalitySplit α)
  totalJobs : α
  totalNationalJobs : Band α
  complianceCounts : ComplianceCounts
  totalGapJobs : α
  trainingGap : List (TrainingGap α)
  findings : List (WorkforceFinding α)
  deriving DecidableEq

namespace Workforce

variable {α : Type} [Scalar α]

def split (settings : WorkforceSettings α) (classifications : Classifications α)
    (impact : OccupationImpact α) : NationalitySplit α × List (WorkforceFinding α) :=
  let sector := impact.sectorCode
  let occupation := impact.occupationCode
  match classifications.get? sector occupation with
  | none =>
    ({ sectorCode := sector
       occupationCode := occupation
       tier := .expatReliant
       totalJobs := impact.jobs
       nationalJobs := .ofShares impact.jobs (settings.tierBands.get .expatReliant)
       currentShare := none
       assumed := true
       rationale := "No classification for " ++ sector ++ "/" ++ occupation },
      [.missingClassification sector occupation])
  | some c =>
    let band := match c.currentShare with
      | some share => .around share settings.knownShareSensitivity
      | none => settings.tierBands.get c.tier
    let findings := match c.currentShare with
      | some share =>
        if decide (0 ≤ share) && decide (share ≤ 1) then []
        else [.shareClamped sector occupation share]
      | none => []
    ({ sectorCode := sector
       occupationCode := occupation
       tier := c.tier
       totalJobs := impact.jobs
       nationalJobs := .ofShares impact.jobs band
       currentShare := c.currentShare
       assumed := false
       rationale := c.rationale }, findings)

def tierJobs (splits : List (NationalitySplit α)) (goal : Option (ShareGoal α))
    (tier : NationalityTier) : TierJobs α :=
  let ofTier := splits.filter (·.tier == tier)
  let jobs := Scalar.total (ofTier.map (·.totalJobs))
  let nationalJobs := Band.total (ofTier.map (·.nationalJobs))
  { tier
    jobs
    nationalJobs
    gap := match goal with
      | some goal =>
        if 0 < Scalar.abs jobs then some (goal.effective - nationalJobs.mid / jobs) else none
      | none => none }

def trainingGap (goal : Option (ShareGoal α)) (s : NationalitySplit α) : TrainingGap α :=
  let gap := match goal with
    | some goal => s.totalJobs * goal.effective - s.nationalJobs.mid
    | none => s.nationalJobs.mid
  { sectorCode := s.sectorCode
    occupationCode := s.occupationCode
    totalJobs := s.totalJobs
    gapJobs := Scalar.larger gap 0
    target := goal.map (·.effective) }

def trainable (splits : List (NationalitySplit α)) : List (NationalitySplit α) :=
  splits.filter (·.tier == .saudiTrainable)

def sectorWorkforce (inputs : WorkforceInputs α) (splits : List (NationalitySplit α))
    (sector : String) (jobs : α) : SectorWorkforce α :=
  let own := splits.filter (·.sectorCode == sector)
  let goal := inputs.goal? sector
  let nationalJobs := Band.total (own.map (·.nationalJobs))
  { sectorCode := sector
    totalJobs := jobs
    nationalJobs
    tiers := NationalityTier.all.map (tierJobs own goal)
    compliance := checkCompliance jobs nationalJobs (inputs.baseline? sector) goal
    trainingGapOccupations := (trainable own).map (·.occupationCode) }

def sectorTraining (inputs : WorkforceInputs α) (splits : List (NationalitySplit α))
    (sector : String) (jobs : α) : List (TrainingGap α) :=
  if 0 ≤ jobs then
    ((trainable (splits.filter (·.sectorCode == sector))).filter
      fun s => decide (0 < s.totalJobs)).map (trainingGap (inputs.goal? sector))
  else []

def baselineFinding (inputs : WorkforceInputs α) (sector : String) : List (WorkforceFinding α) :=
  if (inputs.goal? sector).isSome && (inputs.baseline? sector).isNone then
    [.missingBaseline sector]
  else []

def decompose (settings : WorkforceSettings α) (jobs : SectorVector α)
    (inputs : WorkforceInputs α) (key : WorkforceKey) : Except (Fault α) (WorkforceResult α) := do
  settings.tierBands.check
  let spread := inputs.bridge.spread jobs settings.bridgeTolerance
  let splitsAndFindings := spread.impacts.map (split settings inputs.classifications)
  let splits := splitsAndFindings.map (·.1)
  let sectors := jobs.entries.map fun (sector, count) => sectorWorkforce inputs splits sector count
  let training := jobs.entries.flatMap fun (sector, count) =>
    sectorTraining inputs splits sector count
  return {
    key
    bridgeVersion := inputs.bridge.version
    classificationVersion := inputs.classifications.version
    sectors
    occupations := spread.impacts
    splits
    totalJobs := jobs.total
    totalNationalJobs := Band.total (sectors.map (·.nationalJobs))
    complianceCounts := .ofList (sectors.map (·.compliance.status))
    totalGapJobs := Scalar.total (sectors.filterMap (·.compliance.gapJobs))
    trainingGap := training.mergeSort fun a b => Scalar.precedes b.gapJobs a.gapJobs
    findings := spread.findings ++ splitsAndFindings.flatMap (·.2) ++
      jobs.entries.flatMap fun (sector, _) => baselineFinding inputs sector }

end Workforce

end EconomicImpact
