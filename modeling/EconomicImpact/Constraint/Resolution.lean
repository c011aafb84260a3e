import EconomicImpact.Constraint.Basic
import EconomicImpact.Satellite

set_option autoImplicit false

namespace EconomicImpact

/-- An enforced constraint as a bound on a weighted sum; its weights are positive. -/
structure Bound (α : Type) (n : Nat) where
  source : Constraint α
  sense : Sense
  terms : List (Fin n × α)
  limit : α

namespace Bound

variable {α : Type} {n : Nat}

def id (b : Bound α n) : Uuid := b.source.id

def isHard (b : Bound α n) : Bool := b.source.isHard

def sectors (b : Bound α n) : List (Fin n) := b.terms.map (·.1)

def covers (b : Bound α n) (i : Fin n) : Bool := b.sectors.contains i

def single? (b : Bound α n) : Option (Fin n × α) :=
  match b.terms with
  | [term] => some term
  | _ => none

def isSingle (b : Bound α n) : Bool := b.single?.isSome

variable [Scalar α]

def lhs (b : Bound α n) (y : Vector α n) : α :=
  Scalar.total (b.terms.map fun (i, w) => w * y.get i)

def violation (b : Bound α n) (y : Vector α n) : α :=
  match b.sense with
  | .upper => Scalar.larger (b.lhs y - b.limit) 0
  | .lower => Scalar.larger (b.limit - b.lhs y) 0

end Bound

structure ShareTarget (α : Type) (n : Nat) where
  source : Constraint α
  sectors : List (Fin n)

inductive Resolved (α : Type) (n : Nat)
  | active (bound : Bound α n)
  | inactive (id : Uuid)
  | diagnostic (target : ShareTarget α n)

structure Resolution (α : Type) (n : Nat) where
  active : List (Bound α n)
  inactive : List Uuid
  diagnostics : List (ShareTarget α n)

namespace Resolution

variable {α : Type} {n : Nat}

def ofList (resolved : List (Resolved α n)) : Resolution α n where
  active := resolved.filterMap fun | .active bound => some bound | _ => none
  inactive := resolved.filterMap fun | .inactive id => some id | _ => none
  diagnostics := resolved.filterMap fun | .diagnostic target => some target | _ => none

end Resolution

structure ResolutionContext (α : Type) where
  year : Option Int
  baseOutput : Option (SectorVector α)
  coefficients : Option (Coefficients α)

namespace Constraint

variable {α : Type} [Scalar α] {n : Nat}

def weights (c : Constraint α) (coefficients : Option (AlignedCoefficients α n))
    (sectors : List (Fin n)) : Except (ConstraintDefect α) (List α) :=
  match c.kind with
  | .labor =>
    match coefficients with
    | some aligned => .ok (sectors.map aligned.jobs.get)
    | none => .error (.coefficientsRequired .labor)
  | .imports =>
    match coefficients with
    | some aligned => .ok (sectors.map aligned.imports.get)
    | none => .error (.coefficientsRequired .imports)
  | _ => .ok (sectors.map fun _ => 1)

/-- The bound on the weighted change: a growth rate counts base output, a bound on the total has it
taken off. -/
def limit (c : Constraint α) (base : Option (Vector α n)) (terms : List (Fin n × α)) :
    Except (ConstraintDefect α) α :=
  let baseSum (base : Vector α n) := Scalar.total (terms.map fun (i, w) => w * base.get i)
  match c.kind, c.boundScope, base with
  | .ramp, _, some base => .ok (c.value * baseSum base)
  | .ramp, _, none => .error .baseRequiredByRamp
  | _, .deltaOnly, _ => .ok c.value
  | _, .absoluteTotal, some base => .ok (c.value - baseSum base)
  | _, .absoluteTotal, none => .error .baseRequiredByTotal

def resolveInForce (c : Constraint α) (order : Vector String n) (base : Option (Vector α n))
    (coefficients : Option (AlignedCoefficients α n)) :
    Except (ConstraintDefect α) (Resolved α n) := do
  if !Scalar.isFinite c.value then throw (.nonFiniteValue c.value)
  let sectors ← (c.scope.indices order).mapError .unknownSector
  if sectors.isEmpty then throw .noSectors
  match c.kind.sense with
  | none => return .diagnostic ⟨c, sectors⟩
  | some sense =>
    let weights ← c.weights coefficients sectors
    let terms := (sectors.zip weights).filter fun (_, w) => decide (0 < w)
    if terms.isEmpty then return .inactive c.id
    let limit ← c.limit base terms
    return .active ⟨c, sense, terms, limit⟩

def resolve (c : Constraint α) (order : Vector String n) (year : Option Int)
    (base : Option (Vector α n)) (coefficients : Option (AlignedCoefficients α n)) :
    Except (Fault α) (Resolved α n) :=
  if c.appliesIn year then
    (c.resolveInForce order base coefficients).mapError (.invalidConstraint c.id)
  else .ok (.inactive c.id)

end Constraint

/-- Resolves the constraints of a set in their order. Base output and coefficients must cover exactly
the sectors; coefficients are looked at only if some constraint weighs with them. -/
def ConstraintSet.resolve {α : Type} [Scalar α] {n : Nat} (set : ConstraintSet α)
    (order : Vector String n) (context : ResolutionContext α) :
    Except (Fault α) (Resolution α n) := do
  let base ← context.baseOutput.mapM (·.alignExact order "base output")
  let coefficients ←
    if set.constraints.any (·.kind.isWeighted) then context.coefficients.mapM (·.align order)
    else pure none
  let resolved ← set.constraints.mapM (·.resolve order context.year base coefficients)
  return .ofList resolved

end EconomicImpact
