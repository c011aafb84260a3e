import EconomicImpact.Record.Feasibility
import EconomicImpact.Record.Model
import EconomicImpact.Record.Shock
import EconomicImpact.Record.Workforce
import EconomicImpact.Run.Basic

set_option autoImplicit false

namespace EconomicImpact

open Json.Fields (faultOf)

namespace Scenario

def multipliersOfJson : Json → Decoded (List Float) := Json.asList Json.asFloat

def modeOfJson : Json → Decoded (Option ShockMode) := Json.asOption ShockMode.ofJson

def ofJson (fresh : Uuid) (j : Json) : Decoded (Scenario Float) := do
  let fields ← j.asRecord
    ["id", "name", "model_version_id", "schedule", "shock_mode", "sensitivity_multipliers"]
  fields.checkInOrder [("id", faultOf Json.asUuid), ("name", faultOf Json.asString),
    ("model_version_id", faultOf Json.asUuid), ("schedule", faultOf Schedule.ofJson),
    ("shock_mode", faultOf modeOfJson), ("sensitivity_multipliers", faultOf multipliersOfJson)]
  return {
    id := ← fields.withDefault "id" fresh Json.asUuid
    name := ← fields.withDefault "name" "" Json.asString
    modelVersionId := ← fields.required "model_version_id" Json.asUuid
    schedule := ← fields.required "schedule" Schedule.ofJson
    shockMode := ← fields.optional "shock_mode" ShockMode.ofJson
    sensitivityMultipliers := ← fields.withDefault "sensitivity_multipliers" [] multipliersOfJson }

def ofFile (fresh model : Uuid) (j : Json) : Decoded (Scenario Float) := do
  let fields ← j.asRecord ["name", "schedule", "shock_mode", "sensitivity_multipliers"]
  return {
    id := fresh
    name := ← fields.withDefault "name" "" Json.asString
    modelVersionId := model
    schedule := ← fields.required "schedule" Schedule.ofJson
    shockMode := ← fields.optional "shock_mode" ShockMode.ofJson
    sensitivityMultipliers := ← fields.withDefault "sensitivity_multipliers" [] multipliersOfJson }

end Scenario

namespace RunRequest

def ofJson (fresh : Uuid) (j : Json) : Decoded (RunRequest Float) := do
  let fields ← j.asRecord ["scenario", "coefficients", "constraints", "workforce"]
  fields.checkInOrder [("scenario", faultOf (Scenario.ofJson fresh)),
    ("coefficients", faultOf (Json.asOption Coefficients.ofJson)),
    ("constraints", faultOf (Json.asOption ConstraintSet.ofJson)),
    ("workforce", faultOf (Json.asOption WorkforceInputs.ofJson))]
  return {
    scenario := ← fields.required "scenario" (Scenario.ofJson fresh)
    coefficients := ← fields.optional "coefficients" Coefficients.ofJson
    constraints := ← fields.optional "constraints" ConstraintSet.ofJson
    workforce := ← fields.optional "workforce" WorkforceInputs.ofJson }

end RunRequest

def RunSnapshot.toJson (s : RunSnapshot) : Json :=
  .obj [("run_id", .str s.runId.toText), ("scenario_id", .str s.scenarioId.toText),
    ("model_version_id", .str s.modelVersionId.toText), ("model_checksum", .str s.modelChecksum),
    ("coefficients_version_id", .str s.coefficientsVersionId.toText),
    ("constraint_set_id", .ofOption (fun id => .str id.toText) s.constraintSetId),
    ("constraint_set_version", .ofOption .ofNat s.constraintSetVersion),
    ("shock_mode", .str s.shockMode.name), ("created_at", .str s.createdAt)]

def ResultSet.toJson (r : ResultSet Float) : Json :=
  .obj [("run_id", .str r.runId.toText), ("year", .int r.year),
    ("delta_x", r.impact.deltaX.toJson), ("direct_impact", r.impact.direct.toJson),
    ("indirect_impact", r.impact.indirect.toJson), ("employment", r.accounts.employment.toJson),
    ("import_leakage", r.accounts.importLeakage.toJson),
    ("domestic_output", r.accounts.domesticOutput.toJson),
    ("value_added", r.accounts.valueAdded.toJson), ("totals", r.accounts.totals.toJson)]

def SensitivityRun.toJson (s : SensitivityRun Float) : Json :=
  .obj [("multiplier", .float s.multiplier), ("run_id", .str s.runId.toText),
    ("total_output", s.totalOutput.yearsToJson .float),
    ("total_employment", s.totalEmployment.yearsToJson .float),
    ("peak_year", .ofOption .int s.peakYear)]

namespace RunResult

def warnings (r : RunResult Float) : List Warning := r.findings.map (·.warning)

def toJson (r : RunResult Float) : Json :=
  .obj [("snapshot", r.snapshot.toJson),
    ("result_sets", r.resultSets.yearsToJson ResultSet.toJson),
    ("cumulative_delta_x", r.cumulativeDeltaX.toJson),
    ("peak_year", .ofOption .int r.peakYear), ("peak_total", .float r.peakTotal),
    ("feasibility", r.feasibility.yearsToJson FeasibilityResult.toJson),
    ("workforce", .ofOption WorkforceResult.toJson r.workforce),
    ("sensitivity", .ofList SensitivityRun.toJson r.sensitivity),
    ("warnings", .ofList Warning.toJson r.warnings)]

end RunResult

end EconomicImpact
