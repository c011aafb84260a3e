import EconomicImpact.Fault
import EconomicImpact.Table.Inverse

set_option autoImplicit false

namespace EconomicImpact

variable {α : Type} [Scalar α] {m n : Nat}

def leontiefSystem (a : Table α n n) : Table α n n := (Table.identity n).sub a

def leontiefInverse (a : Table α n n) (limit : α) : Except (Fault α) (Table α n n) :=
  let system := leontiefSystem a
  match system.inverse? with
  | none => .error (.singularSystem .zeroPivot)
  | some inverse =>
    let condition := system.oneNorm * inverse.oneNorm
    if !Scalar.isFinite condition || decide (limit < condition) then
      .error (.singularSystem (.illConditioned condition limit))
    else if inverse.toLists.any (·.any fun v => !Scalar.isFinite v) then
      .error (.singularSystem .nonFiniteInverse)
    else .ok inverse

def leontiefInverseOf (a : Table α m n) (limit : α) : Except (Fault α) (SquareTable α) :=
  if square : m = n then
    (leontiefInverse (square ▸ a) limit).map fun inverse => ⟨n, inverse⟩
  else .error (.dimensionMismatch "technical coefficients" m n)

end EconomicImpact
