import EconomicImpact.Feasibility.Clipping
import EconomicImpact.Feasibility.LinearProgram

/-!
The linear program whose optimum deviates least from a change of output.

Every sector has shifts of its own, up and down; every bound over several sectors moves all of them
together, in proportion to their positive output; every soft bound may be missed at a price. A sector
may be raised only if some floor covers it and lowered only if some upper bound does. Shifts of a
sector that a bound on it alone covers cost a little more than group moves, shifts of members of
groups cost ten times as much, so that groups keep their composition where they can.
-/

set_option autoImplicit false

namespace EconomicImpact

inductive Move (n k : Nat)
  | raise (i : Fin n)
  | lower (i : Fin n)
  | scale (g : Fin k)
  | slack (g : Fin k)
  deriving DecidableEq

namespace Move

def all (n k : Nat) : List (Move n k) :=
  (List.finRange n).map raise ++ (List.finRange n).map lower ++
    (List.finRange k).map scale ++ (List.finRange k).map slack

end Move

def movable {α : Type} {n : Nat} (sense : Sense) (bounds : List (Bound α n)) (i : Fin n) : Bool :=
  bounds.any fun b => b.sense == sense && b.covers i

variable {α : Type} [Scalar α] {n : Nat}

def amountAt (terms : List (Fin n × α)) (i : Fin n) : α :=
  Scalar.total ((terms.filter (·.1 == i)).map (·.2))

def Sense.direction : Sense → α
  | .upper => -1
  | .lower => 1

namespace Deviation

def ownShiftCost : α := 1 + Scalar.ratio 1 10000

def memberShiftCost : α := ((10 : Nat) : α)

def shiftCost (sense : Sense) (bounds : List (Bound α n)) (i : Fin n) : α :=
  if movable sense (bounds.filter (·.isSingle)) i then ownShiftCost else memberShiftCost

def groupShifts (u : Vector α n) (b : Bound α n) : List (Fin n × α) :=
  (b.sectors.zip (b.basis u)).map fun (i, p) => (i, b.sense.direction * p)

def effect (u : Vector α n) (bounds : List (Bound α n)) (c : Fin bounds.length) :
    Move n bounds.length → α
  | .raise i => amountAt (bounds.get c).terms i
  | .lower i => -(amountAt (bounds.get c).terms i)
  | .scale g =>
    Scalar.total ((bounds.get c).terms.map fun (i, w) => w * amountAt (groupShifts u (bounds.get g)) i)
  | .slack g => if g = c then (bounds.get c).sense.direction else 0

def program (u : Vector α n) (bounds : List (Bound α n)) (softPenalty : α) :
    LinearProgram (Move n bounds.length) α where
  unknowns := Move.all n bounds.length
  cost
    | .raise i => shiftCost .lower bounds i
    | .lower i => shiftCost .upper bounds i
    | .scale g => Scalar.total ((bounds.get g).basis u)
    | .slack _ => softPenalty
  fixed
    | .raise i => !movable .lower bounds i
    | .lower i => !movable .upper bounds i
    | .scale g => (bounds.get g).isSingle
    | .slack g => (bounds.get g).isHard
  rows := (List.finRange bounds.length).map fun c => {
    coefficient := effect u bounds c
    sense := (bounds.get c).sense
    bound := (bounds.get c).limit - (bounds.get c).lhs u }

def moved (allowed : Bool) (value : α) : α := if allowed then Scalar.larger value 0 else 0

def decode (u : Vector α n) (bounds : List (Bound α n)) (x : Move n bounds.length → α) :
    Vector α n :=
  let shifted := Vector.ofFn fun i =>
    u.get i + moved (movable .lower bounds i) (x (.raise i)) -
      moved (movable .upper bounds i) (x (.lower i))
  ((List.finRange bounds.length).filter fun g => !(bounds.get g).isSingle).foldl
    (fun y g => (groupShifts u (bounds.get g)).foldl
      (fun y (i, shift) => y.set i (y.get i + shift * moved true (x (.scale g))) i.isLt) y) shifted

end Deviation

def leastDeviation (optimise : Optimiser α) (u : Vector α n) (bounds : List (Bound α n))
    (softPenalty : α) : Except Obstacle (Vector α n) :=
  (optimise (Deviation.program u bounds softPenalty)).map (Deviation.decode u bounds)

end EconomicImpact
