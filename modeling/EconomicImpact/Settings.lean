import EconomicImpact.Shock.Schedule
import EconomicImpact.Workforce.Tier

set_option autoImplicit false

namespace EconomicImpact

structure SolverSettings (α : Type) where
  maxConditionNumber : α
  cacheCapacity : Nat
  shockMode : ShockMode

structure FeasibilitySettings (α : Type) where
  bindingTolerance : α
  softPenalty : α
  lpEnabled : Bool

structure BenchmarkSettings (α : Type) where
  tolerance : α

structure WorkforceSettings (α : Type) where
  tierBands : TierBands α
  knownShareSensitivity : α
  bridgeTolerance : α

structure BatchSettings where
  workerThreads : Nat

structure Settings (α : Type) where
  solver : SolverSettings α
  feasibility : FeasibilitySettings α
  benchmark : BenchmarkSettings α
  workforce : WorkforceSettings α
  batch : BatchSettings

def Settings.standard {α : Type} [Scalar α] : Settings α where
  solver := {
    maxConditionNumber := ((Nat.pow 10 12 : Nat) : α)
    cacheCapacity := 16
    shockMode := .perYear }
  feasibility := {
    bindingTolerance := Scalar.ratio 1 (Nat.pow 10 6)
    softPenalty := ((1000 : Nat) : α)
    lpEnabled := true }
  benchmark := { tolerance := Scalar.ratio 5 100 }
  workforce := {
    tierBands := .standard
    knownShareSensitivity := Scalar.ratio 1 10
    bridgeTolerance := Scalar.ratio 1 (Nat.pow 10 6) }
  batch := { workerThreads := 0 }

end EconomicImpact
