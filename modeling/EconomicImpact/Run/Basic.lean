import EconomicImpact.Caching
import EconomicImpact.Economy.Registry
import EconomicImpact.Feasibility.Solve
import EconomicImpact.Leontief.Inverse
import EconomicImpact.Shock.Phased
import EconomicImpact.Workforce.Decomposition

set_option autoImplicit false

namespace EconomicImpact

structure Scenario (α : Type) where
  id : Uuid
  name : String
  modelVersionId : Uuid
  schedule : Schedule α
  shockMode : Option ShockMode
  sensitivityMultipliers : List α

structure RunRequest (α : Type) where
  scenario : Scenario α
  coefficients : Option (Coefficients α)
  constraints : Option (ConstraintSet α)
  workforce : Option (WorkforceInputs α)

structure RunStamp where
  runId : Uuid
  sensitivityId : Nat → Uuid
  createdAt : String

structure RunSnapshot where
  runId : Uuid
  scenarioId : Uuid
  modelVersionId : Uuid
  modelChecksum : String
  coefficientsVersionId : Uuid
  constraintSetId : Option Uuid
  constraintSetVersion : Option Nat
  shockMode : ShockMode
  createdAt : String
  deriving DecidableEq

structure ResultSet (α : Type) where
  runId : Uuid
  year : Int
  impact : Impact α
  accounts : SatelliteAccounts α
  deriving DecidableEq

structure SensitivityRun (α : Type) where
  multiplier : α
  runId : Uuid
  totalOutput : OrderedMap Int α
  totalEmployment : OrderedMap Int α
  peakYear : Option Int
  deriving DecidableEq

structure RunResult (α : Type) where
  snapshot : RunSnapshot
  resultSets : OrderedMap Int (ResultSet α)
  cumulativeDeltaX : SectorVector α
  peakYear : Option Int
  peakTotal : α
  feasibility : OrderedMap Int (FeasibilityResult α)
  workforce : Option (WorkforceResult α)
  sensitivity : List (SensitivityRun α)
  findings : List (CoefficientFinding α)
  deriving DecidableEq

abbrev Solving (α : Type) := ExceptT (Fault α) (Caching Uuid (SquareTable α))

def Solving.ofExcept {α β : Type} (result : Except (Fault α) β) : Solving α β :=
  ExceptT.mk (pure result)

variable {α : Type} [Scalar α]

namespace RegisteredModel

def inverse (model : RegisteredModel α) (limit : α) : Solving α (SquareTable α) :=
  Caching.load model.version.id fun _ =>
    (leontiefInverse model.economy.coefficients limit).map fun table => ⟨_, table⟩

def solve (model : RegisteredModel α) (limit : α) (shock : List α) : Solving α (Impact α) := do
  let inverse ← model.inverse limit
  Solving.ofExcept (inverse.impact model.economy.sectors.toList shock)

def solveShock (model : RegisteredModel α) (limit : α) (shock : Shock α) :
    Solving α (Impact α) := do
  let values ← Solving.ofExcept (shock.resolve model.economy.sectors)
  model.solve limit values.toList

def solveSchedule (model : RegisteredModel α) (limit : α) (schedule : Schedule α)
    (mode : ShockMode) : Solving α (Phased α) := do
  let shocks ← Solving.ofExcept (schedule.effectiveShocks model.economy.sectors mode)
  let inverse ← model.inverse limit
  Solving.ofExcept (Phased.solve inverse model.economy.sectors mode shocks)

def outputMultipliers (model : RegisteredModel α) (limit : α) : Solving α (SectorVector α) := do
  let inverse ← model.inverse limit
  return inverse.outputMultipliers model.economy.sectors.toList

end RegisteredModel

namespace Run

def resultSets (runId : Uuid) (coefficients : Coefficients α) (phased : Phased α) :
    Except (Fault α) (OrderedMap Int (ResultSet α)) := do
  let entries ← phased.annual.entries.mapM fun (year, impact) => do
    let accounts ← coefficients.accounts impact.deltaX
    return (year, ⟨runId, year, impact, accounts⟩)
  return .ofList entries

def feasibility (optimise : Optimiser α) (settings : FeasibilitySettings α) (economy : Economy α)
    (request : RunRequest α) (coefficients : Coefficients α) (runId : Uuid)
    (sets : OrderedMap Int (ResultSet α)) :
    Except (Fault α) (OrderedMap Int (FeasibilityResult α)) :=
  match request.constraints with
  | none => .ok .empty
  | some set => do
    let shares ← request.workforce.mapM (·.baselineShares)
    let entries ← sets.entries.mapM fun (year, results) => do
      let solved ← Feasibility.solve optimise settings results.impact.deltaX set {
        unconstrainedRunId := some runId
        year := some year
        baseOutput := some economy.outputVector
        coefficients := some coefficients
        nationalShare := shares }
      return (year, solved)
    return .ofList entries

def jobsOf (year : Int) (coefficients : Coefficients α) (sets : OrderedMap Int (ResultSet α))
    (feasible : OrderedMap Int (FeasibilityResult α)) :
    Except (Fault α) (DeltaSource × SectorVector α) :=
  match feasible.get? year with
  | some solved => do
    let accounts ← coefficients.accounts solved.feasible
    return (.feasible, accounts.employment)
  | none =>
    match sets.get? year with
    | some results => .ok (.unconstrained, results.accounts.employment)
    | none => .error (.invalidInput (.missingYear year))

def workforce (settings : WorkforceSettings α) (request : RunRequest α)
    (coefficients : Coefficients α) (runId : Uuid) (peakYear : Option Int)
    (sets : OrderedMap Int (ResultSet α)) (feasible : OrderedMap Int (FeasibilityResult α)) :
    Except (Fault α) (Option (WorkforceResult α)) :=
  match request.workforce, peakYear with
  | some inputs, some year => do
    let (source, jobs) ← jobsOf year coefficients sets feasible
    let result ← Workforce.decompose settings jobs inputs ⟨runId, coefficients.versionId, source⟩
    return some result
  | _, _ => .ok none

def sensitivityTotals (coefficients : Coefficients α) (multiplier : α) (runId : Uuid)
    (phased : Phased α) : Except (Fault α) (SensitivityRun α) := do
  let totals ← phased.annual.entries.mapM fun (year, impact) => do
    let accounts ← coefficients.accounts impact.deltaX
    return (year, impact.deltaX.total, accounts.totals.employment)
  return {
    multiplier
    runId
    totalOutput := .ofList (totals.map fun (year, output, _) => (year, output))
    totalEmployment := .ofList (totals.map fun (year, _, employment) => (year, employment))
    peakYear := phased.peakYear }

def sensitivityRun (model : RegisteredModel α) (limit : α) (schedule : Schedule α)
    (mode : ShockMode) (coefficients : Coefficients α) (multiplier : α) (runId : Uuid) :
    Solving α (SensitivityRun α) := do
  if !Scalar.isFinite multiplier then
    throw (.invalidInput (.nonFiniteMultiplier multiplier))
  let phased ← model.solveSchedule limit (schedule.scaled multiplier) mode
  Solving.ofExcept (sensitivityTotals coefficients multiplier runId phased)

def findings (sets : OrderedMap Int (ResultSet α)) : List (CoefficientFinding α) :=
  match sets.entries with
  | (_, first) :: _ => first.accounts.findings
  | [] => []

end Run

def RegisteredModel.run (model : RegisteredModel α) (optimise : Optimiser α)
    (settings : Settings α) (stamp : RunStamp) (request : RunRequest α) :
    Solving α (RunResult α) := do
  let scenario := request.scenario
  let limit := settings.solver.maxConditionNumber
  let mode := scenario.shockMode.getD settings.solver.shockMode
  let coefficients := request.coefficients.getD (.zeros model.economy.sectors.toList)
  let phased ← model.solveSchedule limit scenario.schedule mode
  let sets ← Solving.ofExcept (Run.resultSets stamp.runId coefficients phased)
  let feasible ← Solving.ofExcept (Run.feasibility optimise settings.feasibility model.economy
    request coefficients stamp.runId sets)
  let workforce ← Solving.ofExcept (Run.workforce settings.workforce request coefficients
    stamp.runId phased.peakYear sets feasible)
  let sensitivity ← scenario.sensitivityMultipliers.zipIdx.mapM fun (multiplier, i) =>
    Run.sensitivityRun model limit scenario.schedule mode coefficients multiplier
      (stamp.sensitivityId i)
  return {
    snapshot := {
      runId := stamp.runId
      scenarioId := scenario.id
      modelVersionId := model.version.id
      modelChecksum := model.version.checksum
      coefficientsVersionId := coefficients.versionId
      constraintSetId := request.constraints.map (·.id)
      constraintSetVersion := request.constraints.map (·.version)
      shockMode := mode
      createdAt := stamp.createdAt }
    resultSets := sets
    cumulativeDeltaX := phased.cumulativeDeltaX
    peakYear := phased.peakYear
    peakTotal := phased.peakTotal
    feasibility := feasible
    workforce
    sensitivity
    findings := Run.findings sets }

end EconomicImpact
