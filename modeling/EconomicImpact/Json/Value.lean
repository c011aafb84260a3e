set_option autoImplicit false

namespace EconomicImpact

inductive Json
  | null
  | bool (value : Bool)
  | int (value : Int)
  | float (value : Float)
  | str (text : String)
  | arr (items : List Json)
  | obj (members : List (String × Json))
  deriving Inhabited, Repr

namespace Json

def member? (j : Json) (name : String) : Option Json :=
  match j with
  | obj members => (members.find? (·.1 == name)).map (·.2)
  | _ => none

def ofOption {α : Type} (encode : α → Json) : Option α → Json
  | some value => encode value
  | none => null

def ofList {α : Type} (encode : α → Json) (items : List α) : Json := arr (items.map encode)

def ofNat (n : Nat) : Json := int n

end Json

end EconomicImpact
