import EconomicImpact.Feasibility.Deviation
import EconomicImpact.Feasibility.Result
import EconomicImpact.Settings

/-!
Solving a change of output again under a constraint set. The least deviation is used if it is found and
meets every hard bound, and clipping otherwise; hard bounds that contradict each other are a failure
on either way.
-/

set_option autoImplicit false

namespace EconomicImpact

structure SolveContext (α : Type) where
  unconstrainedRunId : Option Uuid
  year : Option Int
  baseOutput : Option (SectorVector α)
  coefficients : Option (Coefficients α)
  nationalShare : Option (SectorVector α)

namespace Feasibility

variable {α : Type} [Scalar α] {n : Nat}

def violationTolerance (tolerance limit : α) : α :=
  tolerance * Scalar.larger (Scalar.abs limit) 1

def hardViolations (tolerance : α) (y : Vector α n) (bounds : List (Bound α n)) : List Uuid :=
  (bounds.filter fun b =>
    b.isHard && decide (violationTolerance tolerance b.limit < b.violation y)).map (·.id)

/-- Puts a value within the tolerance of a bound on its sector alone onto that bound. -/
def snap (tolerance : α) (y : Vector α n) (b : Bound α n) : Vector α n :=
  match b.single? with
  | some (i, w) =>
    if Scalar.abs (w * y.get i - b.limit) ≤ tolerance then y.set i (b.limit / w) i.isLt else y
  | none => y

/-- Keeps a sector from rising without a floor and from falling without an upper bound. -/
def restrain (u : Vector α n) (bounds : List (Bound α n)) (y : Vector α n) : Vector α n :=
  Vector.ofFn fun i =>
    let lowered := if movable .lower bounds i then y.get i else Scalar.smaller (y.get i) (u.get i)
    if movable .upper bounds i then lowered else Scalar.larger lowered (u.get i)

def tidy (tolerance : α) (u : Vector α n) (bounds : List (Bound α n)) (y : Vector α n) :
    Vector α n :=
  restrain u bounds (bounds.foldl (snap tolerance) y)

structure Candidate (α : Type) (n : Nat) where
  values : Vector α n
  method : SolveMethod
  fallback : Option FallbackReason

def clipped (u : Vector α n) (bounds : List (Bound α n)) (reason : FallbackReason) :
    Candidate α n :=
  ⟨clip u bounds, .clipping, some reason⟩

def candidate (optimise : Optimiser α) (settings : FeasibilitySettings α) (u : Vector α n)
    (bounds : List (Bound α n)) : Except (Fault α) (Candidate α n) :=
  if bounds.isEmpty then .ok ⟨u, .passthrough, none⟩
  else if !settings.lpEnabled then .ok (clipped u bounds .disabled)
  else
    match leastDeviation optimise u bounds settings.softPenalty with
    | .ok y =>
      match hardViolations settings.bindingTolerance y bounds with
      | [] => .ok ⟨y, .lp, none⟩
      | id :: _ => .ok (clipped u bounds (.violates id))
    | .error .infeasible =>
      .error (.infeasible .emptyProgram ((bounds.filter (·.isHard)).map (·.id)))
    | .error (.failed reason) => .ok (clipped u bounds (.failed reason))

def settle (tolerance : α) (u : Vector α n) (bounds : List (Bound α n)) (c : Candidate α n) :
    Except (Fault α) (Vector α n) :=
  let y := tidy tolerance u bounds c.values
  if c.method = .clipping ∧ hardViolations tolerance y bounds ≠ [] then
    .error (.infeasible .unmetByClipping (hardViolations tolerance y bounds))
  else .ok y

def isRelaxed (tolerance : α) (y : Vector α n) (b : Bound α n) : Bool :=
  !b.isHard && decide (tolerance < b.violation y)

def isBinding (tolerance : α) (y : Vector α n) (b : Bound α n) : Bool :=
  isRelaxed tolerance y b || decide (Scalar.abs (b.lhs y - b.limit) ≤ tolerance)

def bindingEntry (tolerance : α) (order : Vector String n) (u y : Vector α n) (b : Bound α n) :
    BindingConstraint α where
  source := b.source
  sectorCodes := b.sectors.map order.get
  bound := b.limit
  unconstrainedValue := b.lhs u
  feasibleValue := b.lhs y
  gap := b.lhs y - b.lhs u
  shadowPrice := b.violation u
  relaxed := isRelaxed tolerance y b
  outputGap := Scalar.total (b.sectors.map fun i => y.get i - u.get i)

def enablers (tolerance : α) (binding : List (BindingConstraint α)) : List (Enabler α) :=
  let holding := binding.filter fun b =>
    b.source.kind.sense == some .upper && decide (tolerance < -b.outputGap)
  let sorted := holding.mergeSort fun a b => Scalar.precedes a.outputGap b.outputGap
  sorted.mapIdx fun i b => ⟨i + 1, b.source, b.sectorCodes, -b.outputGap⟩

def diagnostics (order : Vector String n) (shares : Option (SectorVector α))
    (targets : List (ShareTarget α n)) : List (ComplianceDiagnostic α) :=
  targets.flatMap fun t => t.sectors.map fun i =>
    let observed := shares.bind (·.get? (order.get i))
    ⟨t.source, order.get i, t.source.value, observed, observed.map (t.source.value - ·)⟩

def report (settings : FeasibilitySettings α) (u : SectorVector α) (set : ConstraintSet α)
    (context : SolveContext α) (resolution : Resolution α u.size) (y : Vector α u.size)
    (method : SolveMethod) (fallback : Option FallbackReason) : FeasibilityResult α :=
  let tolerance := settings.bindingTolerance
  let binding := (resolution.active.filter (isBinding tolerance y)).map
    (bindingEntry tolerance u.codes u.values y)
  { unconstrainedRunId := context.unconstrainedRunId
    constraintSetId := set.id
    constraintSetVersion := set.version
    year := context.year
    feasible := .ofAligned u.codes y
    unconstrained := u
    gap := .ofAligned u.codes (y.zipWith (· - ·) u.values)
    totals := .of u.values.toList y.toList
    binding
    slack := (resolution.active.filter (!isBinding tolerance y ·)).map (·.id)
    inactive := resolution.inactive
    method
    fallbackUsed := fallback.isSome
    fallbackReason := fallback
    enablers := enablers tolerance binding
    diagnostics := diagnostics u.codes context.nationalShare resolution.diagnostics
    confidence := .ofLists (set.constraints.map (·.confidence)) (binding.map (·.source.confidence))
    warnings :=
      match fallback with
      | some reason => [reason.warning]
      | none => [] }

def solve (optimise : Optimiser α) (settings : FeasibilitySettings α) (u : SectorVector α)
    (set : ConstraintSet α) (context : SolveContext α) :
    Except (Fault α) (FeasibilityResult α) := do
  if u.values.toList.any fun v => !Scalar.isFinite v then throw (.invalidInput .nonFiniteDelta)
  match set.hardConflicts context.year with
  | [] =>
    let resolution ← set.resolve u.codes
      ⟨context.year, context.baseOutput, context.coefficients⟩
    let found ← candidate optimise settings u.values resolution.active
    let y ← settle settings.bindingTolerance u.values resolution.active found
    return report settings u set context resolution y found.method found.fallback
  | conflicts =>
    throw (.infeasible .opposingBounds (conflicts.flatMap fun (floor, cap) => [floor, cap]).eraseDups)

end Feasibility

end EconomicImpact
