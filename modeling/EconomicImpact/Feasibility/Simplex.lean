import EconomicImpact.Feasibility.Basis
import EconomicImpact.Feasibility.LinearProgram

/-!
The simplex method. Costs that are not negative make the start with all variables at zero optimal but
for the rows it violates; each pivot then mends a row and keeps the reduced costs from becoming
negative. A row is chosen by its violation relative to the length of its row of the basis inverse, and
the entering variable by a ratio test with a tolerance that prefers large pivots. Where some cost is
negative, further pivots lower the objective.
-/

set_option autoImplicit false

namespace EconomicImpact

namespace Simplex

variable {α : Type} [Scalar α] {n m : Nat}

def tolerance : α := Scalar.ratio 1 (Nat.pow 10 8)

def greatestBy? {β : Type} (key : β → α) : List β → Option β
  | [] => none
  | x :: xs => some (xs.foldl (fun best y => if key best < key y then y else best) x)

inductive Column (n m : Nat)
  | structural (j : Fin n)
  | slack (i : Fin m)
  deriving DecidableEq

structure UpperProgram (α : Type) (n m : Nat) where
  coefficients : Table α m n
  costs : Vector α n
  bounds : Vector α m

namespace UpperProgram

def column (p : UpperProgram α n m) : Column n m → Vector α m
  | .structural j => Vector.ofFn fun i => p.coefficients.get i j
  | .slack i => unitVector i

def cost (p : UpperProgram α n m) : Column n m → α
  | .structural j => p.costs.get j
  | .slack _ => 0

end UpperProgram

structure Position (α : Type) (n m : Nat) where
  basic : Vector (Column n m) m
  others : Vector (Column n m) n
  values : Vector α m
  reduced : Vector α n
  norms : Vector α m
  inverse : BasisInverse α m

namespace Position

def start (p : UpperProgram α n m) : Position α n m where
  basic := Vector.ofFn .slack
  others := Vector.ofFn .structural
  values := p.bounds
  reduced := p.costs.map fun c => Scalar.larger c 0
  norms := Vector.ofFn fun _ => 1
  inverse := .identity

def tableauRow (p : UpperProgram α n m) (s : Position α n m) (inverseRow : Vector α m) :
    Vector α n :=
  s.others.map fun c => dot (p.column c) inverseRow

def leaving? (s : Position α n m) : Option (Fin m) :=
  greatestBy? (fun i => s.values.get i * s.values.get i / s.norms.get i)
    ((List.finRange m).filter fun i => decide (s.values.get i < -tolerance))

/-- Of the variables whose reduced costs vanish first but for the tolerance, that with the largest
pivot. -/
def entering? (s : Position α n m) (row : Vector α n) : Option (Fin n) :=
  let eligible := (List.finRange n).filter fun j => decide (row.get j ≤ -tolerance)
  let slope (j : Fin n) := Scalar.larger (s.reduced.get j) 0
  match eligible.map fun j => (slope j + tolerance) / Scalar.abs (row.get j) with
  | [] => none
  | first :: rest =>
    let reach := rest.foldl Scalar.smaller first
    greatestBy? (fun j => Scalar.abs (row.get j))
      (eligible.filter fun j => decide (slope j / Scalar.abs (row.get j) ≤ reach))

def pivot (p : UpperProgram α n m) (s : Position α n m) (r : Fin m) (j : Fin n) : Position α n m :=
  let inverseRow := s.inverse.applyTransposed (unitVector r)
  let row := s.tableauRow p inverseRow
  let column := s.inverse.apply (p.column (s.others.get j))
  let step := s.values.get r / row.get j
  let slope := s.reduced.get j / row.get j
  let length := dot inverseRow inverseRow
  let overlap := s.inverse.apply inverseRow
  let basic := s.basic.set r (s.others.get j) r.isLt
  { basic
    others := s.others.set j (s.basic.get r) j.isLt
    values := Vector.ofFn fun i => if i = r then step else s.values.get i - step * column.get i
    reduced := Vector.ofFn fun k => if k = j then -slope else s.reduced.get k - slope * row.get k
    norms := Vector.ofFn fun i =>
      let factor := column.get i / row.get j
      if i = r then length / (row.get j * row.get j)
      else s.norms.get i + (length * factor * factor - (factor + factor) * overlap.get i)
    inverse := s.inverse.update (.enter column r (row.get j)) (basic.map p.column) }

def priced (p : UpperProgram α n m) (s : Position α n m) : Position α n m :=
  let prices := s.inverse.applyTransposed (s.basic.map p.cost)
  { s with reduced := s.others.map fun c => p.cost c - dot (p.column c) prices }

def improving? (s : Position α n m) : Option (Fin n) :=
  greatestBy? (fun j => -(s.reduced.get j))
    ((List.finRange n).filter fun j => decide (s.reduced.get j < -tolerance))

def limiting? (p : UpperProgram α n m) (s : Position α n m) (j : Fin n) : Option (Fin m) :=
  let column := s.inverse.apply (p.column (s.others.get j))
  greatestBy? (fun i => -(s.values.get i / column.get i))
    ((List.finRange m).filter fun i => decide (tolerance < column.get i))

def valueOf (s : Position α n m) (j : Fin n) : α :=
  match s.basic.toList.idxOf? (.structural j) with
  | some i => s.values.toList.getD i 0
  | none => 0

end Position

inductive Verdict (α : Type) (n m : Nat)
  | finished (s : Position α n m)
  | stuck
  | exhausted

def mend (p : UpperProgram α n m) : Nat → Position α n m → Verdict α n m
  | 0, _ => .exhausted
  | pivots + 1, s =>
    match s.leaving? with
    | none => .finished s
    | some r =>
      match s.entering? (s.tableauRow p (s.inverse.applyTransposed (unitVector r))) with
      | none => .stuck
      | some j => mend p pivots (s.pivot p r j)

def improve (p : UpperProgram α n m) : Nat → Position α n m → Verdict α n m
  | 0, _ => .exhausted
  | pivots + 1, s =>
    match s.improving? with
    | none => .finished s
    | some j =>
      match s.limiting? p j with
      | none => .stuck
      | some r => improve p pivots (s.pivot p r j)

def pivotLimit : Nat := 100000

def optimum (p : UpperProgram α n m) : Except Obstacle (Position α n m) :=
  match mend p pivotLimit (.start p) with
  | .stuck => .error .infeasible
  | .exhausted => .error (.failed "the number of pivots is limited")
  | .finished s =>
    if p.costs.toList.all fun c => decide (0 ≤ c) then .ok s
    else
      match improve p pivotLimit (s.priced p) with
      | .stuck => .error (.failed "the objective is unbounded")
      | .exhausted => .error (.failed "the number of pivots is limited")
      | .finished s => .ok s

def upperProgram {ι : Type} (free : List ι) (p : LinearProgram ι α) :
    UpperProgram α free.length p.rows.length where
  coefficients := Table.ofFn fun i j =>
    let coefficient := (p.rows.get i).coefficient (free.get j)
    match (p.rows.get i).sense with
    | .upper => coefficient
    | .lower => -coefficient
  costs := Vector.ofFn fun j => p.cost (free.get j)
  bounds := Vector.ofFn fun i =>
    match (p.rows.get i).sense with
    | .upper => (p.rows.get i).bound
    | .lower => -(p.rows.get i).bound

end Simplex

def simplex {α : Type} [Scalar α] : Optimiser α := fun p =>
  let free := p.unknowns.filter (!p.fixed ·)
  (Simplex.optimum (Simplex.upperProgram free p)).map fun s v =>
    ((List.finRange free.length).find? fun j => free.get j = v).elim 0 s.valueOf

end EconomicImpact
