import EconomicImpact.Decimal.Reading
import EconomicImpact.Text.Blank

set_option autoImplicit false

namespace EconomicImpact.Text

def isExponentMark (c : Char) : Bool := c == 'e' || c == 'E'

def magnitude? (cs : List Char) : Option Float := do
  let mantissa := cs.takeWhile (!isExponentMark ·)
  let whole := mantissa.takeWhile (· != '.')
  let fraction := (mantissa.dropWhile (· != '.')).drop 1
  let digits ← natOfDigits? (whole ++ fraction)
  let exponent ← match cs.dropWhile (!isExponentMark ·) with
    | [] => some 0
    | _ :: exponent => intOfText? exponent
  return nearestFloat digits (exponent - fraction.length)

def namedMagnitude? (cs : List Char) : Option Float :=
  match String.ofList (cs.map Char.toLower) with
  | "inf" | "infinity" => some (1 / 0)
  | "nan" => some (0 / 0)
  | _ => none

def float? (cs : List Char) : Option Float :=
  let unsigned? (cs : List Char) : Option Float := (namedMagnitude? cs).or (magnitude? cs)
  match cs with
  | '+' :: cs => unsigned? cs
  | '-' :: cs => (unsigned? cs).map (-·)
  | cs => unsigned? cs

end EconomicImpact.Text
