import EconomicImpact.OrderedMap
import EconomicImpact.Scalar

set_option autoImplicit false

namespace EconomicImpact

structure SectorComparison (α : Type) where
  sectorCode : String
  computed : α
  benchmark : α
  absoluteDiff : α
  relativeDiff : α
  withinTolerance : Bool
  deriving DecidableEq

structure BenchmarkReport (α : Type) where
  comparisons : List (SectorComparison α)
  rmse : α
  mae : α
  maxRelativeDiff : α
  tolerance : α
  onlyComputed : List String
  onlyBenchmark : List String
  deriving DecidableEq

namespace BenchmarkReport

variable {α : Type}

def within (r : BenchmarkReport α) : Nat := r.comparisons.countP (·.withinTolerance)

def outside (r : BenchmarkReport α) : Nat := r.comparisons.length - r.within

def passes (r : BenchmarkReport α) : Bool :=
  decide (0 < r.comparisons.length) && decide (r.within = r.comparisons.length)

end BenchmarkReport

namespace Benchmark

variable {α : Type} [Scalar α]

def compare (tolerance : α) (sectorCode : String) (computed benchmark : α) : SectorComparison α :=
  let absoluteDiff := computed - benchmark
  let relativeDiff :=
    if Scalar.abs benchmark < Scalar.ratio 1 (Nat.pow 10 12) then 0 else absoluteDiff / benchmark
  { sectorCode
    computed
    benchmark
    absoluteDiff
    relativeDiff
    withinTolerance := decide (Scalar.abs relativeDiff ≤ tolerance) }

def comparisons (computed benchmark : OrderedMap String α) (tolerance : α) :
    List (SectorComparison α) :=
  computed.entries.filterMap fun (code, value) =>
    (benchmark.get? code).map (compare tolerance code value)

def rootMeanSquare [SquareRoot α] (xs : List α) : α :=
  if xs.isEmpty then 0
  else SquareRoot.sqrt (Scalar.total (xs.map fun x => x * x) / (xs.length : α))

def meanAbsolute (xs : List α) : α :=
  if xs.isEmpty then 0 else Scalar.total (xs.map Scalar.abs) / (xs.length : α)

def validate [SquareRoot α] (computed benchmark : OrderedMap String α) (tolerance : α) :
    BenchmarkReport α :=
  let comparisons := comparisons computed benchmark tolerance
  { comparisons
    rmse := rootMeanSquare (comparisons.map (·.absoluteDiff))
    mae := meanAbsolute (comparisons.map (·.absoluteDiff))
    maxRelativeDiff := Scalar.greatest (comparisons.map fun c => Scalar.abs c.relativeDiff)
    tolerance
    onlyComputed := computed.keys.filter (!benchmark.contains ·)
    onlyBenchmark := benchmark.keys.filter (!computed.contains ·) }

end Benchmark

end EconomicImpact
