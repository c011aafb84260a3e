import EconomicImpact.Run.Session

set_option autoImplicit false

namespace EconomicImpact

structure BatchOutcome (α : Type) where
  scenarioId : Uuid
  scenarioName : String
  result : Except (Fault α) (RunResult α)

namespace Batch

variable {α : Type}

def succeeded (outcomes : List (BatchOutcome α)) : Nat :=
  outcomes.countP fun o => o.result.isOk

def failed (outcomes : List (BatchOutcome α)) : Nat := outcomes.length - succeeded outcomes

variable [Scalar α]

def task (registry : Registry α) (settings : Settings α) (optimise : Optimiser α)
    (stamp : RunStamp) (request : RunRequest α) : Solving α (RunResult α) :=
  match registry.get request.scenario.modelVersionId with
  | .ok model => model.run optimise settings stamp request
  | .error fault => Solving.ofExcept (.error fault)

def outcome (request : RunRequest α) (result : Except (Fault α) (RunResult α)) : BatchOutcome α :=
  ⟨request.scenario.id, request.scenario.name, result⟩

def run (s : Session α) (optimise : Optimiser α) (requests : List (RunStamp × RunRequest α)) :
    List (BatchOutcome α) × Session α :=
  let tasks := requests.map fun (stamp, request) =>
    task s.registry s.settings optimise stamp request
  let (results, cache) := Caching.runAll s.cache tasks
  ((requests.map (·.2)).zipWith outcome results, { s with cache })

end Batch

end EconomicImpact
