import EconomicImpact.Decimal.Binary

set_option autoImplicit false

namespace EconomicImpact

def signText (x : Float) : String := if signBit x then "-" else ""

def fixedText (places : Nat) (x : Float) : String :=
  if x.isNaN then "NaN"
  else if x.isInf then signText x ++ "inf"
  else
    let (num, den) := (Binary.ofFloat x).overPower (-(places : Int))
    signText x ++ Numeral.withPoint (nearestQuotient num den) places

def signedFixedText (places : Nat) (x : Float) : String :=
  if x.isNaN || signBit x then fixedText places x else "+" ++ fixedText places x

def Binary.reaches (b : Binary) (place : Int) : Bool :=
  decide (Nat.pow 10 place.toNat * b.denominator ≤ b.numerator * Nat.pow 10 (-place).toNat)

def Binary.rounded (b : Binary) (places : Nat) : Nat × Int :=
  let start := b.leadingPlace + 1
  let first :=
    if b.reaches start then start else if b.reaches (start - 1) then start - 1 else start - 2
  let (num, den) := b.overPower (first - places)
  let digits := nearestQuotient num den
  if digits = Nat.pow 10 (places + 1) then (Nat.pow 10 places, first + 1) else (digits, first)

def scientificText (places : Nat) (x : Float) : String :=
  if x.isNaN then "NaN"
  else if x.isInf then signText x ++ "inf"
  else
    let b := Binary.ofFloat x
    let (digits, first) := if b.significand = 0 then (0, 0) else b.rounded places
    signText x ++ Numeral.withPoint digits places ++ "e" ++ toString first

end EconomicImpact
