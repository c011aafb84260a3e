import EconomicImpact.Leontief.Impact
import EconomicImpact.Shock.Schedule

set_option autoImplicit false

namespace EconomicImpact

structure Phased (α : Type) where
  mode : ShockMode
  annual : OrderedMap Int (Impact α)
  cumulativeDeltaX : SectorVector α
  peakYear : Option Int
  peakTotal : α
  deriving BEq, DecidableEq

namespace Phased

variable {α : Type} [Scalar α] {n : Nat}

def peak? : List (Int × α) → Option (Int × α)
  | [] => none
  | first :: rest => some (rest.foldl (fun best p => if best.2 < p.2 then p else best) first)

def solve (inverse : SquareTable α) (codes : Vector String n) (mode : ShockMode)
    (shocks : List (Int × Vector α n)) : Except (Fault α) (Phased α) := do
  let annual ← shocks.mapM fun (year, shock) => do
    return (year, ← inverse.impact codes.toList shock.toList)
  let cumulative := annual.foldl
    (fun sums (_, impact) => sums.zipWith (· + ·) (impact.deltaX.entries.map (·.2)))
    (List.replicate n 0)
  let peak := peak? (annual.map fun (year, impact) => (year, impact.deltaX.total))
  return {
    mode
    annual := .ofList annual
    cumulativeDeltaX := .ofZip codes.toList cumulative
    peakYear := peak.map (·.1)
    peakTotal := (peak.map (·.2)).getD 0 }

end Phased

end EconomicImpact
