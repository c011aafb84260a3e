import EconomicImpact.Constraint.Kind
import EconomicImpact.SectorVector

set_option autoImplicit false

namespace EconomicImpact

inductive Scope
  | sector (code : String)
  | group (codes : List String)
  | all
  deriving DecidableEq, Repr

def allSectors : String := "*"

namespace Scope

def codes : Scope → List String
  | sector code => [code]
  | group codes => codes
  | all => [allSectors]

def firstUnknown? {n : Nat} (scope : Scope) (order : Vector String n) : Option String :=
  match scope with
  | all => none
  | scope => scope.codes.find? fun code => (position? order code).isNone

def covers {n : Nat} (scope : Scope) (order : Vector String n) (i : Fin n) : Bool :=
  match scope with
  | all => true
  | scope => scope.codes.any fun code => position? order code == some i

def indices {n : Nat} (scope : Scope) (order : Vector String n) : Except String (List (Fin n)) :=
  match scope.firstUnknown? order with
  | some code => .error code
  | none => .ok ((List.finRange n).filter (scope.covers order))

def sameCodes (s t : Scope) : Bool :=
  s.codes.all (· ∈ t.codes) && t.codes.all (· ∈ s.codes)

end Scope

structure Constraint (α : Type) where
  id : Uuid
  kind : ConstraintKind
  scope : Scope
  value : α
  unit : String
  confidence : Confidence
  boundScope : BoundScope
  window : Option (Int × Int)
  description : Option String
  deriving BEq, DecidableEq

namespace Constraint

variable {α : Type}

def isHard (c : Constraint α) : Bool := c.confidence == .hard

def appliesIn (c : Constraint α) (year : Option Int) : Bool :=
  match year, c.window with
  | some year, some (first, last) => decide (first ≤ year) && decide (year ≤ last)
  | _, _ => true

def windowsOverlap (c d : Constraint α) : Bool :=
  match c.window, d.window with
  | some (first₁, last₁), some (first₂, last₂) =>
    decide (first₁ ≤ last₂) && decide (first₂ ≤ last₁)
  | _, _ => true

end Constraint

structure ConstraintSet (α : Type) where
  id : Uuid
  version : Nat
  name : String
  constraints : List (Constraint α)
  deriving BEq, DecidableEq

namespace ConstraintSet

variable {α : Type}

def isEmpty (set : ConstraintSet α) : Bool := set.constraints.isEmpty

def opposingPairs (constraints : List (Constraint α)) : List (Constraint α × Constraint α) :=
  (constraints.filter (·.kind == .floor)).flatMap fun floor =>
    ((constraints.filter (·.kind == .capacityCap)).filter fun cap =>
      floor.scope.sameCodes cap.scope && floor.windowsOverlap cap).map fun cap => (floor, cap)

def hardConflicts [Scalar α] (set : ConstraintSet α) (year : Option Int) : List (Uuid × Uuid) :=
  ((opposingPairs (set.constraints.filter fun c => c.isHard && c.appliesIn year)).filter
    fun (floor, cap) => floor.boundScope == cap.boundScope && decide (cap.value < floor.value)).map
    fun (floor, cap) => (floor.id, cap.id)

end ConstraintSet

end EconomicImpact
