import EconomicImpact.Constraint.Validation
import EconomicImpact.ContentId
import EconomicImpact.Decimal.Shortest
import EconomicImpact.Json.Decode

set_option autoImplicit false

namespace EconomicImpact

namespace ConstraintKind

def ofJson : Json → Decoded ConstraintKind := Json.asNamed name all

end ConstraintKind

namespace Confidence

def ofName? (text : String) : Option Confidence := all.find? (·.name == text)

def ofJson (j : Json) : Decoded Confidence :=
  match Json.asNamed id ["SOFT"] j with
  | .ok _ => .ok estimated
  | .error _ => Json.asNamed name all j

end Confidence

namespace BoundScope

def ofJson : Json → Decoded BoundScope := Json.asNamed name all

end BoundScope

namespace Scope

def toJson : Scope → Json
  | sector code => .str code
  | group codes => .arr (codes.map .str)
  | all => .str allSectors

def ofJson (j : Json) : Decoded Scope :=
  match j with
  | .str code => .ok (if code = allSectors then all else sector code)
  | .arr [.str code] => .ok (sector code)
  | j => (j.asList Json.asString).map group

end Scope

def windowToJson : Option (Int × Int) → Json
  | some (first, last) => .arr [.int first, .int last]
  | none => .null

def windowOfJson : Json → Decoded (Int × Int)
  | .arr [first, last] => do return (← first.asYear, ← last.asYear)
  | _ => .error .malformed

namespace Constraint

def toJson (c : Constraint Float) : Json :=
  .obj [("id", .str c.id.toText), ("constraint_type", .str c.kind.name),
    ("applies_to", c.scope.toJson), ("value", .float c.value), ("unit", .str c.unit),
    ("confidence", .str c.confidence.name), ("bound_scope", .str c.boundScope.name),
    ("time_window", windowToJson c.window), ("description", .ofOption .str c.description)]

def recordSpace : String := "constraint"

def keyed (c : Constraint Float) : Constraint Float :=
  { c with id := contentId recordSpace ({ c with id := .nil }.toJson) }

def ofKind (kind : ConstraintKind) (scope : Scope) (value : Float) : Constraint Float :=
  keyed {
    id := .nil
    kind
    scope
    value
    unit := kind.defaultUnit
    confidence := .hard
    boundScope := .deltaOnly
    window := none
    description := none }

def cap (sector : String) (value : Float) : Constraint Float :=
  ofKind .capacityCap (.sector sector) value

def floor (sector : String) (value : Float) : Constraint Float :=
  ofKind .floor (.sector sector) value

def groupCap (sectors : List String) (value : Float) : Constraint Float :=
  ofKind .capacityCap (.group sectors) value

def ramp (sector : String) (rate : Float) : Constraint Float := ofKind .ramp (.sector sector) rate

def labor (scope : Scope) (jobs : Float) : Constraint Float := ofKind .labor scope jobs

def imports (scope : Scope) (value : Float) : Constraint Float := ofKind .imports scope value

def saudization (scope : Scope) (share : Float) : Constraint Float := ofKind .saudization scope share

def withConfidence (c : Constraint Float) (confidence : Confidence) : Constraint Float :=
  { c with confidence }.keyed

def withBoundScope (c : Constraint Float) (boundScope : BoundScope) : Constraint Float :=
  { c with boundScope }.keyed

def withWindow (c : Constraint Float) (first last : Int) : Constraint Float :=
  { c with window := some (first, last) }.keyed

def withDescription (c : Constraint Float) (description : String) : Constraint Float :=
  { c with description := some description }.keyed

def describe (c : Constraint Float) : String :=
  c.description.getD
    (c.kind.name ++ " " ++ numberText c.value ++ " on " ++ "+".intercalate c.scope.codes)

def fields : List String :=
  ["id", "constraint_type", "applies_to", "value", "unit", "confidence", "bound_scope",
    "time_window", "description"]

def ofJson (j : Json) : Decoded (Constraint Float) := do
  let fields ← j.asRecord fields
  let id ← fields.optional "id" Json.asUuid
  let kind ← fields.required "constraint_type" ConstraintKind.ofJson
  let scope ← fields.required "applies_to" Scope.ofJson
  let value ← fields.required "value" Json.asFloat
  let unit ← fields.optional "unit" Json.asString
  let confidence ← fields.withDefault "confidence" .hard Confidence.ofJson
  let boundScope ← fields.withDefault "bound_scope" .deltaOnly BoundScope.ofJson
  let window ← fields.optional "time_window" windowOfJson
  let description ← fields.optional "description" Json.asString
  let constraint : Constraint Float := {
    id := .nil
    kind
    scope
    value
    unit := unit.getD kind.defaultUnit
    confidence
    boundScope
    window
    description }
  match id with
  | some id => return { constraint with id }
  | none => return constraint.keyed

end Constraint

namespace ConstraintSet

def toJson (set : ConstraintSet Float) : Json :=
  .obj [("id", .str set.id.toText), ("version", .ofNat set.version), ("name", .str set.name),
    ("constraints", .ofList Constraint.toJson set.constraints)]

def recordSpace : String := "constraint_set"

def keyed (set : ConstraintSet Float) : ConstraintSet Float :=
  { set with id := contentId recordSpace ({ set with id := .nil }.toJson) }

def defaultVersion : Nat := 1

def ofList (constraints : List (Constraint Float)) : ConstraintSet Float :=
  keyed { id := .nil, version := defaultVersion, name := "", constraints }

def withName (set : ConstraintSet Float) (name : String) : ConstraintSet Float :=
  { set with name }.keyed

def recordOfJson (j : Json) : Decoded (ConstraintSet Float) := do
  let fields ← j.asObject ["id", "version", "name", "constraints"]
  let id ← fields.optional "id" Json.asUuid
  let version ← fields.withDefault "version" defaultVersion (Json.asNatBelow (Nat.pow 2 32))
  let name ← fields.withDefault "name" "" Json.asString
  let constraints ← fields.required "constraints" (Json.asList Constraint.ofJson)
  let set : ConstraintSet Float := { id := .nil, version, name, constraints }
  match id with
  | some id => return { set with id }
  | none => return set.keyed

def ofJson (j : Json) : Decoded (ConstraintSet Float) :=
  match j.asList Constraint.ofJson, recordOfJson j with
  | .ok constraints, _ => .ok (ofList constraints)
  | _, .ok set => .ok set
  | _, _ => .error .malformed

end ConstraintSet

def ConstraintIssue.text : ConstraintIssue Float → String
  | nonFiniteValue id value =>
    "Constraint " ++ id.toText ++ ": value " ++ numberText value ++ " is not finite"
  | growthBelowLoss id value =>
    "Constraint " ++ id.toText ++ ": growth rate " ++ numberText value ++ " is below -100%"
  | shareOutOfRange id value =>
    "Constraint " ++ id.toText ++ ": Saudi share " ++ numberText value ++ " outside [0, 1]"
  | invertedWindow id first last =>
    "Constraint " ++ id.toText ++ ": time window start " ++ toString first ++ " after end " ++
      toString last
  | emptyGroup id => "Constraint " ++ id.toText ++ ": empty sector group"
  | unknownSector id code => "Constraint " ++ id.toText ++ ": unknown sector " ++ code
  | duplicates group => group.text
  | floorAboveCap floorId floor capId cap codes =>
    "Floor " ++ floorId.toText ++ " (" ++ numberText floor ++ ") exceeds cap " ++ capId.toText ++
      " (" ++ numberText cap ++ ") on " ++ "+".intercalate codes

end EconomicImpact
