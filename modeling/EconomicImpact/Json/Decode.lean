import EconomicImpact.Json.Value
import EconomicImpact.Uuid

/-!
Reading values of the domain off JSON values. A record may be written as an object, whose unknown
members are ignored, or as the list of its fields; an object may not name a field twice.
-/

set_option autoImplicit false

namespace EconomicImpact

inductive DecodeFault
  | malformed
  | notAYear (key : String)
  | duplicateSector (code : String)
  deriving DecidableEq

def DecodeFault.message : DecodeFault → String
  | malformed => ""
  | notAYear key => "schedule key `" ++ key ++ "` is not a year"
  | duplicateSector code => "Invalid model: duplicate sector code in vector: " ++ code

abbrev Decoded (α : Type) := Except DecodeFault α

namespace Json

variable {α : Type}

def asFloat : Json → Decoded Float
  | int n => .ok (Float.ofInt n)
  | float x => .ok x
  | _ => .error .malformed

def asString : Json → Decoded String
  | str text => .ok text
  | _ => .error .malformed

def asBool : Json → Decoded Bool
  | bool value => .ok value
  | _ => .error .malformed

def asIntWithin (least greatest : Int) : Json → Decoded Int
  | int n => if least ≤ n ∧ n ≤ greatest then .ok n else .error .malformed
  | _ => .error .malformed

def asYear : Json → Decoded Int := asIntWithin (-(Nat.pow 2 31 : Int)) (Nat.pow 2 31 - 1)

def asNatBelow (bound : Nat) (j : Json) : Decoded Nat :=
  (asIntWithin 0 (bound - 1) j).map Int.toNat

def asCount : Json → Decoded Nat := asNatBelow (Nat.pow 2 64)

def asList (decode : Json → Decoded α) : Json → Decoded (List α)
  | arr items => items.mapM decode
  | _ => .error .malformed

def asMembers : Json → Decoded (List (String × Json))
  | obj members => .ok members
  | _ => .error .malformed

def asUuid : Json → Decoded Uuid
  | str text => match Uuid.ofText? text with
    | some id => .ok id
    | none => .error .malformed
  | _ => .error .malformed

def asOption (decode : Json → Decoded α) : Json → Decoded (Option α)
  | null => .ok none
  | j => (decode j).map some

def asNamed (name : α → String) (values : List α) (j : Json) : Decoded α :=
  let text? : Option String := match j with
    | str text => some text
    | obj [(text, null)] => some text
    | _ => none
  match text?.bind fun text => values.find? (name · == text) with
  | some value => .ok value
  | none => .error .malformed

structure Fields where
  members : List (String × Json)

def asObject (names : List String) : Json → Decoded Fields
  | obj members =>
    if names.any fun name => decide (1 < (members.filter (·.1 == name)).length) then
      .error .malformed
    else .ok ⟨members⟩
  | _ => .error .malformed

def asRecord (names : List String) : Json → Decoded Fields
  | arr items => if items.length ≤ names.length then .ok ⟨names.zip items⟩ else .error .malformed
  | j => asObject names j

namespace Fields

def get? (fields : Fields) (name : String) : Option Json :=
  (fields.members.find? (·.1 == name)).map (·.2)

def required (fields : Fields) (name : String) (decode : Json → Decoded α) : Decoded α :=
  match fields.get? name with
  | some j => decode j
  | none => .error .malformed

def withDefault (fields : Fields) (name : String) (fallback : α) (decode : Json → Decoded α) :
    Decoded α :=
  match fields.get? name with
  | some j => decode j
  | none => .ok fallback

def optional (fields : Fields) (name : String) (decode : Json → Decoded α) : Decoded (Option α) :=
  match fields.get? name with
  | some j => asOption decode j
  | none => .ok none

def faultOf (decode : Json → Decoded α) (j : Json) : Decoded Unit := (decode j).map fun _ => ()

/-- Checks fields in the order in which they are written, so that the first fault is reported. -/
def checkInOrder (fields : Fields) (checks : List (String × (Json → Decoded Unit))) :
    Decoded Unit :=
  fields.members.forM fun (name, j) =>
    match checks.lookup name with
    | some check => check j
    | none => .ok ()

end Fields

end Json

end EconomicImpact
