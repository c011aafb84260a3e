import EconomicImpact.Table

set_option autoImplicit false

namespace EconomicImpact.Table

variable {α : Type} [Scalar α] {n : Nat}

structure Elimination (α : Type) (n : Nat) where
  left : Table α n n
  right : Table α n n

def pivotRow (t : Table α n n) (i : Fin n) : Fin n :=
  ((List.finRange n).filter (i < ·)).foldl
    (fun best r => if Scalar.abs (t.get best i) < Scalar.abs (t.get r i) then r else best) i

def swapRows (t : Table α n n) (i k : Fin n) : Table α n n :=
  ofFn fun r c => t.get (if r = i then k else if r = k then i else r) c

namespace Elimination

def start (t : Table α n n) : Elimination α n := ⟨t, identity n⟩

def swap (s : Elimination α n) (i k : Fin n) : Elimination α n :=
  ⟨s.left.swapRows i k, s.right.swapRows i k⟩

def clearBelow (s : Elimination α n) (i : Fin n) : Elimination α n :=
  let factor (r : Fin n) := s.left.get r i * (1 / s.left.get i i)
  { left := ofFn fun r c =>
      if i < r then
        if c = i then 0
        else if i < c then -(s.left.get i c) * factor r + s.left.get r c
        else s.left.get r c
      else s.left.get r c
    right := ofFn fun r c =>
      if i < r then -(s.right.get i c) * factor r + s.right.get r c else s.right.get r c }

def step (s : Elimination α n) (i : Fin n) : Option (Elimination α n) :=
  let swapped := s.swap i (s.left.pivotRow i)
  if Scalar.isZero (swapped.left.get i i) then none else some (swapped.clearBelow i)

def substitute (s : Elimination α n) (i : Fin n) : Elimination α n :=
  let solved (c : Fin n) := s.right.get i c / s.left.get i i
  { s with
    right := ofFn fun r c =>
      if r = i then solved c
      else if r < i then -(solved c) * s.left.get r i + s.right.get r c
      else s.right.get r c }

end Elimination

def eliminate (t : Table α n n) : Option (Elimination α n) :=
  (List.finRange n).foldlM Elimination.step (Elimination.start t)

def inverse? (t : Table α n n) : Option (Table α n n) :=
  t.eliminate.map fun s => ((List.finRange n).foldr (fun i s => s.substitute i) s).right

end EconomicImpact.Table
