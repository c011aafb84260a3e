import EconomicImpact.Constraint.Resolution

set_option autoImplicit false

namespace EconomicImpact

variable {α : Type} [Scalar α] {n : Nat}

/-- The positive parts of the values of a bound's sectors, or ones where no part is positive. -/
def Bound.basis (b : Bound α n) (y : Vector α n) : List α :=
  let positive := b.sectors.map fun i => Scalar.larger (y.get i) 0
  if positive.any fun p => decide (0 < p) then positive else positive.map fun _ => 1

namespace Clipping

def correction? (b : Bound α n) (y : Vector α n) : Option α :=
  let lhs := b.lhs y
  match b.sense with
  | .upper => if b.limit < lhs then some (b.limit - lhs) else none
  | .lower => if lhs < b.limit then some (b.limit - lhs) else none

def spread (scale : α) (y : Vector α n) (shares : List (Fin n × α)) : Vector α n :=
  shares.foldl (fun y (i, share) => y.set i (y.get i + scale * share) i.isLt) y

def apply (y : Vector α n) (b : Bound α n) : Vector α n :=
  match correction? b y with
  | none => y
  | some correction =>
    match b.single? with
    | some (i, w) => y.set i (b.limit / w) i.isLt
    | none =>
      let shares := b.basis y
      let weighted := Scalar.total (b.terms.zipWith (fun (_, w) share => w * share) shares)
      spread (correction / weighted) y (b.sectors.zip shares)

def passes (bounds : List (Bound α n)) : List (Bound α n) :=
  let soft := bounds.filter (!·.isHard)
  let hard := bounds.filter (·.isHard)
  soft.filter (·.isSingle) ++ soft.filter (!·.isSingle) ++
    hard.filter (·.isSingle) ++ hard.filter (!·.isSingle)

end Clipping

def clip (u : Vector α n) (bounds : List (Bound α n)) : Vector α n :=
  (Clipping.passes bounds).foldl Clipping.apply u

end EconomicImpact
