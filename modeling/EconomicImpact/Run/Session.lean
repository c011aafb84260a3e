import EconomicImpact.Economy.Balancing
import EconomicImpact.Run.Basic

set_option autoImplicit false

namespace EconomicImpact

structure NowcastRequest (α : Type) where
  balancing : Balancing α
  start : List (List α)
  rows : List α
  columns : List α
  sectorCodes : List String
  output : List α
  baseYear : Int

namespace Session

inductive Command (α : Type)
  | register (id : Uuid) (time : String) (snapshot : Snapshot α) (source : String)
  | nowcast (id : Uuid) (time : String) (request : NowcastRequest α)
  | version (model : Uuid)
  | versions
  | size
  | cacheCounts
  | inverse (model : Uuid)
  | solve (model : Uuid) (shock : List α)
  | solveShock (model : Uuid) (shock : Shock α)
  | schedule (model : Uuid) (schedule : Schedule α) (mode : ShockMode)
  | multipliers (model : Uuid)
  | run (stamp : RunStamp) (request : RunRequest α)

inductive Answer (α : Type)
  | version (version : ModelVersion)
  | versions (versions : List ModelVersion)
  | size (size : Nat)
  | cacheCounts (hits misses entries : Nat)
  | inverse (inverse : SquareTable α)
  | impact (impact : Impact α)
  | phased (phased : Phased α)
  | multipliers (multipliers : SectorVector α)
  | run (result : RunResult α)

end Session

structure Session (α : Type) where
  settings : Settings α
  registry : Registry α
  cache : LruCache Uuid (SquareTable α)

namespace Session

variable {α : Type}

def start (settings : Settings α) : Session α :=
  ⟨settings, .empty, .empty settings.solver.cacheCapacity⟩

section

variable {β : Type}

def useCache (s : Session α) (computation : Solving α β) : Except (Fault α) β × Session α :=
  let (result, cache) := Caching.run s.cache computation
  (result, { s with cache })

def onModel (s : Session α) (id : Uuid) (computation : RegisteredModel α → Solving α β) :
    Except (Fault α) β × Session α :=
  match s.registry.get id with
  | .ok model => s.useCache (computation model)
  | .error fault => (.error fault, s)

end

variable [Scalar α] [SpectralRoutine α] [BitImage α]

def register (s : Session α) (id : Uuid) (time : String) (snapshot : Snapshot α)
    (source : String) : Except (Fault α) ModelVersion × Session α :=
  match s.registry.register id time snapshot source with
  | .ok (version, registry) => (.ok version, { s with registry })
  | .error fault => (.error fault, s)

def nowcast (s : Session α) (id : Uuid) (time : String) (request : NowcastRequest α) :
    Except (Fault α) ModelVersion × Session α :=
  match request.balancing.balance request.start request.rows request.columns with
  | .ok balanced =>
    s.register id time (balanced.nowcast request.output request.sectorCodes request.baseYear)
      nowcastSource
  | .error fault => (.error fault, s)

def run (s : Session α) (optimise : Optimiser α) (stamp : RunStamp) (request : RunRequest α) :
    Except (Fault α) (RunResult α) × Session α :=
  s.onModel request.scenario.modelVersionId (·.run optimise s.settings stamp request)

def answer {β : Type} (wrap : β → Answer α) (outcome : Except (Fault α) β × Session α) :
    Except (Fault α) (Answer α) × Session α :=
  (outcome.1.map wrap, outcome.2)

def perform (s : Session α) (optimise : Optimiser α) :
    Command α → Except (Fault α) (Answer α) × Session α
  | .register id time snapshot source => answer .version (s.register id time snapshot source)
  | .nowcast id time request => answer .version (s.nowcast id time request)
  | .version model => ((s.registry.get model).map fun m => .version m.version, s)
  | .versions => (.ok (.versions s.registry.versions), s)
  | .size => (.ok (.size s.registry.size), s)
  | .cacheCounts => (.ok (.cacheCounts s.cache.hits s.cache.misses s.cache.size), s)
  | .inverse model =>
    answer .inverse (s.onModel model (·.inverse s.settings.solver.maxConditionNumber))
  | .solve model shock =>
    answer .impact (s.onModel model (·.solve s.settings.solver.maxConditionNumber shock))
  | .solveShock model shock =>
    answer .impact (s.onModel model (·.solveShock s.settings.solver.maxConditionNumber shock))
  | .schedule model schedule mode =>
    answer .phased
      (s.onModel model (·.solveSchedule s.settings.solver.maxConditionNumber schedule mode))
  | .multipliers model =>
    answer .multipliers (s.onModel model (·.outputMultipliers s.settings.solver.maxConditionNumber))
  | .run stamp request => answer .run (s.run optimise stamp request)

def performAll (s : Session α) (optimise : Optimiser α) :
    List (Command α) → List (Except (Fault α) (Answer α)) × Session α
  | [] => ([], s)
  | command :: rest =>
    let (first, s) := s.perform optimise command
    let (answers, s) := performAll s optimise rest
    (first :: answers, s)

end Session

end EconomicImpact
