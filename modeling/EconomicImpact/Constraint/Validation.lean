import EconomicImpact.Constraint.Basic

set_option autoImplicit false

namespace EconomicImpact

structure DuplicateGroup where
  kind : ConstraintKind
  codes : List String
  count : Nat
  deriving DecidableEq

def DuplicateGroup.text (g : DuplicateGroup) : String :=
  "Duplicate " ++ g.kind.name ++ " constraints on " ++ "+".intercalate g.codes ++ ": " ++
    toString g.count ++ " entries"

inductive ConstraintIssue (α : Type)
  | nonFiniteValue (id : Uuid) (value : α)
  | growthBelowLoss (id : Uuid) (value : α)
  | shareOutOfRange (id : Uuid) (value : α)
  | invertedWindow (id : Uuid) (first last : Int)
  | emptyGroup (id : Uuid)
  | unknownSector (id : Uuid) (code : String)
  | duplicates (group : DuplicateGroup)
  | floorAboveCap (floorId : Uuid) (floor : α) (capId : Uuid) (cap : α) (codes : List String)

namespace Scope

def sortedCodes (scope : Scope) : List String :=
  (scope.codes.mergeSort fun a b => decide (a ≤ b)).eraseReps

end Scope

namespace Constraint

variable {α : Type} [Scalar α]

def valueIssues (c : Constraint α) : List (ConstraintIssue α) :=
  match c.kind with
  | .ramp => if c.value < -1 then [.growthBelowLoss c.id c.value] else []
  | .saudization =>
    if decide (0 ≤ c.value) && decide (c.value ≤ 1) then [] else [.shareOutOfRange c.id c.value]
  | _ => []

def windowIssues (c : Constraint α) : List (ConstraintIssue α) :=
  match c.window with
  | some (first, last) => if last < first then [.invertedWindow c.id first last] else []
  | none => []

def scopeIssues (c : Constraint α) : List (ConstraintIssue α) :=
  match c.scope with
  | .group [] => [.emptyGroup c.id]
  | _ => []

def sectorIssues (c : Constraint α) (order : List String) : List (ConstraintIssue α) :=
  match c.scope.firstUnknown? order.toArray.toVector with
  | some code => [.unknownSector c.id code]
  | none => []

def issues (c : Constraint α) (order : Option (List String)) : List (ConstraintIssue α) :=
  (if Scalar.isFinite c.value then [] else [.nonFiniteValue c.id c.value]) ++
    c.valueIssues ++ c.windowIssues ++ c.scopeIssues ++ (order.map c.sectorIssues).getD []

end Constraint

namespace ConstraintSet

variable {α : Type} [Scalar α]

def duplicateGroups (set : ConstraintSet α) : List DuplicateGroup :=
  let keys := set.constraints.map fun c => (c.kind, c.scope.sortedCodes, c.window)
  let groups := keys.eraseDups.map fun key => DuplicateGroup.mk key.1 key.2.1 (keys.count key)
  (groups.filter (1 < ·.count)).mergeSort fun g h => decide (g.text ≤ h.text)

def floorIssues (set : ConstraintSet α) : List (ConstraintIssue α) :=
  ((opposingPairs set.constraints).filter fun (floor, cap) => decide (cap.value < floor.value)).map
    fun (floor, cap) => .floorAboveCap floor.id floor.value cap.id cap.value floor.scope.codes

def validate (set : ConstraintSet α) (order : Option (List String)) : List (ConstraintIssue α) :=
  set.constraints.flatMap (·.issues order) ++ set.duplicateGroups.map .duplicates ++ set.floorIssues

end ConstraintSet

end EconomicImpact
