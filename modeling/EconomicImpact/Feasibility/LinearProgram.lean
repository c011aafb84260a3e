import EconomicImpact.Constraint.Kind
import EconomicImpact.Scalar

set_option autoImplicit false

namespace EconomicImpact

structure ProgramRow (ι α : Type) where
  coefficient : ι → α
  sense : Sense
  bound : α

structure LinearProgram (ι α : Type) where
  unknowns : List ι
  cost : ι → α
  fixed : ι → Bool
  rows : List (ProgramRow ι α)

inductive Obstacle
  | infeasible
  | failed (reason : String)
  deriving DecidableEq

namespace LinearProgram

variable {ι α : Type} [Scalar α]

def weigh (p : LinearProgram ι α) (weight x : ι → α) : α :=
  Scalar.total (p.unknowns.map fun v => weight v * x v)

def rowHolds (p : LinearProgram ι α) (row : ProgramRow ι α) (x : ι → α) : Prop :=
  match row.sense with
  | .upper => p.weigh row.coefficient x ≤ row.bound
  | .lower => row.bound ≤ p.weigh row.coefficient x

structure Feasible (p : LinearProgram ι α) (x : ι → α) : Prop where
  nonneg : ∀ v, 0 ≤ x v
  fixed_zero : ∀ v, p.fixed v = true → x v = 0
  rows_hold : ∀ row ∈ p.rows, p.rowHolds row x

def objective (p : LinearProgram ι α) (x : ι → α) : α := p.weigh p.cost x

structure Optimal (p : LinearProgram ι α) (x : ι → α) : Prop extends p.Feasible x where
  least : ∀ z, p.Feasible z → p.objective x ≤ p.objective z

end LinearProgram

abbrev Optimiser (α : Type) :=
  ∀ {ι : Type} [DecidableEq ι], LinearProgram ι α → Except Obstacle (ι → α)

end EconomicImpact
