set_option autoImplicit false

namespace EconomicImpact

def nearestFloat (significand : Nat) (exponent : Int) : Float :=
  let digits := (Nat.toDigits 10 significand).length
  if significand = 0 ∨ exponent + digits < -400 then 0
  else if 400 < exponent + digits then 1 / 0
  else if 0 ≤ exponent then Float.ofScientific significand false exponent.toNat
  else Float.ofScientific significand true (-exponent).toNat

end EconomicImpact
