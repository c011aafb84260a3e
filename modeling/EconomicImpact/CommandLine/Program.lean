import EconomicImpact.CommandLine.Help
import EconomicImpact.Fault.Message
import EconomicImpact.Feasibility.Simplex
import EconomicImpact.Json.Reader
import EconomicImpact.Record.Benchmark
import EconomicImpact.Record.Run
import EconomicImpact.Run.Session
import EconomicImpact.Settings.Load

set_option autoImplicit false

namespace EconomicImpact.CommandLine

structure Surroundings where
  file? : String → Option String
  environment : List (String × String)
  modelId : Uuid
  scenarioId : Uuid
  stamp : RunStamp

inductive Failure
  | usage (fault : UsageFault)
  | settings (path : String)
  | unreadable (path : String)
  | malformed (path : String)
  | analysis (fault : Fault Float)
  | unprintableSettings

def Failure.message : Failure → String
  | usage fault => fault.message
  | settings path => "failed to load configuration from " ++ path
  | unreadable path => "failed to read " ++ path
  | malformed path => "failed to parse " ++ path
  | analysis fault => fault.message
  | unprintableSettings => "failed to render configuration"

def Failure.exitCode : Failure → Nat
  | usage _ => 2
  | _ => 1

structure Delivery where
  text : String
  destination : Option String
  exitCode : Nat

namespace Delivery

def printed (text : String) : Delivery := ⟨text, none, 0⟩

end Delivery

abbrev Attempt (β : Type) := Except Failure β

variable {β : Type}

def analysed (result : Except (Fault Float) β) : Attempt β := result.mapError .analysis

namespace Surroundings

def readJson (s : Surroundings) (decode : Json → Decoded β) (path : String) : Attempt β :=
  match s.file? path with
  | none => .error (.unreadable path)
  | some text =>
    match (Json.parse? text).map decode with
    | some (.ok value) => .ok value
    | _ => .error (.malformed path)

def readOptional (s : Surroundings) (decode : Json → Decoded β) (path : Option String) :
    Attempt (Option β) :=
  path.mapM (s.readJson decode)

def settings (s : Surroundings) (path : String) : Attempt (Settings Float) :=
  match Settings.load (s.file? path) s.environment with
  | some settings => .ok settings
  | none => .error (.settings path)

def openModel (s : Surroundings) (settings : Settings Float) (path : String) :
    Attempt (Session Float) := do
  let snapshot ← s.readJson Snapshot.ofJson path
  let (version, session) :=
    (Session.start settings).register s.modelId s.stamp.createdAt snapshot path
  let _ ← analysed version
  return session

def multipliers (s : Surroundings) (settings : Settings Float) (path : String) :
    Attempt (SectorVector Float) := do
  let session ← s.openModel settings path
  analysed (session.onModel s.modelId (·.outputMultipliers settings.solver.maxConditionNumber)).1

def run (s : Surroundings) (settings : Settings Float) (model scenario : String)
    (coefficients constraints workforce output : Option String) : Attempt Delivery := do
  let session ← s.openModel settings model
  let request : RunRequest Float := {
    scenario := ← s.readJson (Scenario.ofFile s.scenarioId s.modelId) scenario
    coefficients := ← s.readOptional Coefficients.ofJson coefficients
    constraints := ← s.readOptional ConstraintSet.ofJson constraints
    workforce := ← s.readOptional WorkforceInputs.ofJson workforce }
  let result ← analysed (session.run simplex s.stamp request).1
  return ⟨result.toJson.pretty 0, output, 0⟩

def benchmark (s : Surroundings) (settings : Settings Float) (model reference : String)
    (tolerance : Option Float) (asJson : Bool) : Attempt Delivery := do
  let computed ← s.multipliers settings model
  let reference ← s.readJson Benchmark.ofJson reference
  let report := Benchmark.validate (.ofList computed.entries) reference
    (tolerance.getD settings.benchmark.tolerance)
  return {
    text := if asJson then report.toJson.pretty 0 else report.text
    destination := none
    exitCode := if report.passes then 0 else 2 }

def showSettings (settings : Settings Float) : Attempt Delivery :=
  match settings.document? with
  | some text => .ok (.printed text)
  | none => .error .unprintableSettings

def perform (s : Surroundings) (verb : Verb) (config : Option String) (given : Settled) :
    Attempt Delivery := do
  let settings ← s.settings (config.getD defaultConfig)
  let path (flag : Flag) : String := (given.get? flag).getD ""
  match verb with
  | .run =>
    s.run settings (path .model) (path .scenario) (given.get? .coefficients)
      (given.get? .constraints) (given.get? .workforce) (given.get? .output)
  | .benchmark =>
    s.benchmark settings (path .model) (path .reference)
      ((given.get? .tolerance).bind fun text => Text.float? text.toList) (given.has .json)
  | .showConfig => showSettings settings
  | .multipliers => do
    let multipliers ← s.multipliers settings (path .model)
    return .printed (multipliers.toJson.pretty 0)

end Surroundings

def Request.files : Request → List String
  | .perform _ config given =>
    config.getD defaultConfig ::
      [Flag.model, .scenario, .coefficients, .constraints, .workforce, .reference].filterMap given.get?
  | .help _ | .version => []

def Request.deliver (s : Surroundings) : Request → Attempt Delivery
  | .perform verb config given => s.perform verb config given
  | .help topic => .ok (.printed (helpText topic))
  | .version => .ok (.printed versionText)

end EconomicImpact.CommandLine
