import EconomicImpact.Economy.Model

set_option autoImplicit false

namespace EconomicImpact

structure Balancing (α : Type) where
  tolerance : α
  maxIterations : Nat

structure Balanced (α : Type) (n : Nat) where
  flows : Table α n n
  converged : Bool
  iterations : Nat
  finalError : Option α

namespace Balancing

variable {α : Type} [Scalar α]

def standard : Balancing α := ⟨Scalar.ratio 1 (Nat.pow 10 8), 1000⟩

def factor (target sum : α) : α := if 0 < sum then target / sum else 0

variable {n : Nat}

def scaleRows (targets : Vector α n) (t : Table α n n) : Table α n n :=
  let factors := Vector.ofFn fun i => factor (targets.get i) (t.rowSum i)
  Table.ofFn fun i j => t.get i j * factors.get i

def scaleColumns (targets : Vector α n) (t : Table α n n) : Table α n n :=
  let factors := Vector.ofFn fun j => factor (targets.get j) (t.columnSum j)
  Table.ofFn fun i j => t.get i j * factors.get j

def iteration (rows columns : Vector α n) (t : Table α n n) : Table α n n :=
  scaleColumns columns (scaleRows rows t)

def deviation (rows columns : Vector α n) (t : Table α n n) : α :=
  Scalar.larger
    (Scalar.greatest (List.ofFn fun i => Scalar.abs (t.rowSum i - rows.get i)))
    (Scalar.greatest (List.ofFn fun j => Scalar.abs (t.columnSum j - columns.get j)))

def run (tolerance : α) (rows columns : Vector α n) :
    Nat → Nat → Option α → Table α n n → Balanced α n
  | 0, done, error, t => ⟨t, false, done, error⟩
  | left + 1, done, _, t =>
    let t := iteration rows columns t
    let error := deviation rows columns t
    if error ≤ tolerance then ⟨t, true, done + 1, some error⟩
    else run tolerance rows columns left (done + 1) (some error) t

def balanceTable (b : Balancing α) (start : Table α n n) (rows columns : Vector α n) :
    Balanced α n :=
  run b.tolerance rows columns b.maxIterations 0 none start

def balance (b : Balancing α) (start : List (List α)) (rows columns : List α) :
    Except (Fault α) (Balanced α start.length) :=
  let n := start.length
  match start.find? (·.length ≠ n) with
  | some row => .error (.dimensionMismatch "RAS Z0 columns" n row.length)
  | none =>
    if sameRows : rows.length = n then
      if sameColumns : columns.length = n then
        if (rows ++ columns).any (· < 0) then .error (.invalidModel .negativeTargets)
        else
          .ok (b.balanceTable (Table.ofLists n n start) ⟨rows.toArray, by simpa using sameRows⟩
            ⟨columns.toArray, by simpa using sameColumns⟩)
      else .error (.dimensionMismatch "RAS column targets" n columns.length)
    else .error (.dimensionMismatch "RAS row targets" n rows.length)

end Balancing

def Balanced.nowcast {α : Type} {n : Nat} (b : Balanced α n) (output : List α)
    (sectorCodes : List String) (baseYear : Int) : Snapshot α :=
  { sectorCodes, flows := b.flows.toLists, output, baseYear, denomination := defaultDenomination }

def nowcastSource : String := "balanced-nowcast"

end EconomicImpact
