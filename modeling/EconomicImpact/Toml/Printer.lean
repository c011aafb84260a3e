import EconomicImpact.Decimal.Shortest
import EconomicImpact.Json.Printer

set_option autoImplicit false

namespace EconomicImpact.Toml

def floatText (x : Float) : String :=
  if x.isNaN then "nan"
  else if x.isInf then numberText x
  else
    let text := numberText x
    if text.toList.contains '.' then text else text ++ ".0"

def isTable : Json → Bool
  | .obj _ => true
  | _ => false

mutual

def valueText? : Json → Option String
  | .null | .obj _ => none
  | .bool value => some (if value then "true" else "false")
  | .int n => if -(Nat.pow 2 63 : Int) ≤ n ∧ n < Nat.pow 2 63 then some (toString n) else none
  | .float x => some (floatText x)
  | .str text => some (Json.quote text)
  | .arr items => (itemTexts? items).map fun texts => "[" ++ ", ".intercalate texts ++ "]"

def itemTexts? : List Json → Option (List String)
  | [] => some []
  | item :: rest =>
    match valueText? item, itemTexts? rest with
    | some text, some texts => some (text :: texts)
    | _, _ => none

end

def memberLine? (member : String × Json) : Option String :=
  (valueText? member.2).map fun text => member.1 ++ " = " ++ text ++ "\n"

def blockText? (path : List String) (members : List (String × Json)) : Option (List String) := do
  let lines ← (members.filter fun m => !isTable m.2).mapM memberLine?
  let header := if path.isEmpty then "" else "[" ++ ".".intercalate path ++ "]\n"
  if lines.isEmpty && !members.isEmpty then some [] else some [header ++ String.join lines]

mutual

def blocks? (path : List String) : Json → Option (List String)
  | .obj members =>
    match blockText? path members, memberBlocks? path members with
    | some own, some inner => some (own ++ inner)
    | _, _ => none
  | _ => some []

def memberBlocks? (path : List String) : List (String × Json) → Option (List String)
  | [] => some []
  | (key, value) :: rest =>
    match blocks? (path ++ [key]) value, memberBlocks? path rest with
    | some first, some others => some (first ++ others)
    | _, _ => none

end

def print? (document : Json) : Option String :=
  (blocks? [] document).map fun blocks => "\n".intercalate blocks

end EconomicImpact.Toml
