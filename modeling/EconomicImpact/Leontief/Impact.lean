import EconomicImpact.SectorVector
import EconomicImpact.Table

set_option autoImplicit false

namespace EconomicImpact

structure Impact (α : Type) where
  deltaX : SectorVector α
  direct : SectorVector α
  indirect : SectorVector α
  deriving BEq, DecidableEq

namespace SquareTable

variable {α : Type} [Scalar α]

def impact (inverse : SquareTable α) (codes : List String) (shock : List α) :
    Except (Fault α) (Impact α) :=
  if sameLength : shock.length = inverse.size then
    let demand : Vector α inverse.size := ⟨shock.toArray, by simpa using sameLength⟩
    let deltaX := inverse.table.apply demand
    .ok {
      deltaX := .ofZip codes deltaX.toList
      direct := .ofZip codes shock
      indirect := .ofZip codes (deltaX.zipWith (· - ·) demand).toList }
  else .error (.dimensionMismatch "shock vector" inverse.size shock.length)

def outputMultipliers (inverse : SquareTable α) (codes : List String) : SectorVector α :=
  .ofZip codes (List.ofFn fun j => inverse.table.columnSum j)

def employmentMultipliers (inverse : SquareTable α) (codes : List String) (jobs : List α) :
    Except (Fault α) (SectorVector α) :=
  if jobs.length = inverse.size then
    .ok (.ofZip codes
      (List.ofFn fun j => Scalar.total ((inverse.table.column j).zipWith (· * ·) jobs)))
  else .error (.dimensionMismatch "jobs coefficients" inverse.size jobs.length)

end SquareTable

end EconomicImpact
