import EconomicImpact.Record.Shock
import EconomicImpact.Settings

set_option autoImplicit false

namespace EconomicImpact

def SolverSettings.toJson (s : SolverSettings Float) : Json :=
  .obj [("max_condition_number", .float s.maxConditionNumber),
    ("cache_capacity", .ofNat s.cacheCapacity), ("shock_mode", .str s.shockMode.name)]

def SolverSettings.ofJson (j : Json) : Decoded (SolverSettings Float) := do
  let fields ← j.asRecord ["max_condition_number", "cache_capacity", "shock_mode"]
  return {
    maxConditionNumber := ← fields.required "max_condition_number" Json.asFloat
    cacheCapacity := ← fields.required "cache_capacity" Json.asCount
    shockMode := ← fields.required "shock_mode" ShockMode.ofJson }

def FeasibilitySettings.toJson (s : FeasibilitySettings Float) : Json :=
  .obj [("binding_tolerance", .float s.bindingTolerance), ("soft_penalty", .float s.softPenalty),
    ("lp_enabled", .bool s.lpEnabled)]

def FeasibilitySettings.ofJson (j : Json) : Decoded (FeasibilitySettings Float) := do
  let fields ← j.asRecord ["binding_tolerance", "soft_penalty", "lp_enabled"]
  return {
    bindingTolerance := ← fields.required "binding_tolerance" Json.asFloat
    softPenalty := ← fields.required "soft_penalty" Json.asFloat
    lpEnabled := ← fields.required "lp_enabled" Json.asBool }

def BenchmarkSettings.toJson (s : BenchmarkSettings Float) : Json :=
  .obj [("tolerance", .float s.tolerance)]

def BenchmarkSettings.ofJson (j : Json) : Decoded (BenchmarkSettings Float) := do
  let fields ← j.asRecord ["tolerance"]
  return { tolerance := ← fields.required "tolerance" Json.asFloat }

def WorkforceSettings.toJson (s : WorkforceSettings Float) : Json :=
  .obj [("tier_ranges", s.tierBands.toJson),
    ("known_pct_sensitivity", .float s.knownShareSensitivity),
    ("bridge_tolerance", .float s.bridgeTolerance)]

def WorkforceSettings.ofJson (j : Json) : Decoded (WorkforceSettings Float) := do
  let fields ← j.asRecord ["tier_ranges", "known_pct_sensitivity", "bridge_tolerance"]
  return {
    tierBands := ← fields.required "tier_ranges" TierBands.ofJson
    knownShareSensitivity := ← fields.required "known_pct_sensitivity" Json.asFloat
    bridgeTolerance := ← fields.required "bridge_tolerance" Json.asFloat }

def BatchSettings.toJson (s : BatchSettings) : Json :=
  .obj [("worker_threads", .ofNat s.workerThreads)]

def BatchSettings.ofJson (j : Json) : Decoded BatchSettings := do
  let fields ← j.asRecord ["worker_threads"]
  return { workerThreads := ← fields.required "worker_threads" Json.asCount }

namespace Json

mutual

def overlay : Json → Json → Json
  | obj members, obj changes => obj (overlayMembers members changes)
  | _, change => change

def overlayMembers (members : List (String × Json)) :
    List (String × Json) → List (String × Json)
  | [] => members
  | (name, change) :: rest =>
    overlayMembers (overlayMember name members change) rest

def overlayMember (name : String) : List (String × Json) → Json → List (String × Json)
  | [], change => [(name, change)]
  | (key, value) :: rest, change =>
    if key = name then (key, overlay value change) :: rest
    else (key, value) :: overlayMember name rest change

end

end Json

namespace Settings

def toJson (s : Settings Float) : Json :=
  .obj [("solver", s.solver.toJson), ("feasibility", s.feasibility.toJson),
    ("benchmark", s.benchmark.toJson), ("workforce", s.workforce.toJson),
    ("batch", s.batch.toJson)]

def ofJson (j : Json) : Decoded (Settings Float) := do
  let fields ← j.asRecord ["solver", "feasibility", "benchmark", "workforce", "batch"]
  return {
    solver := ← fields.required "solver" SolverSettings.ofJson
    feasibility := ← fields.required "feasibility" FeasibilitySettings.ofJson
    benchmark := ← fields.required "benchmark" BenchmarkSettings.ofJson
    workforce := ← fields.required "workforce" WorkforceSettings.ofJson
    batch := ← fields.required "batch" BatchSettings.ofJson }

def overStandard (changes : Json) : Decoded (Settings Float) :=
  ofJson (standard.toJson.overlay changes)

end Settings

end EconomicImpact
