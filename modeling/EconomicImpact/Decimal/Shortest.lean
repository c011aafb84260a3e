import EconomicImpact.Decimal.Binary

set_option autoImplicit false

namespace EconomicImpact

namespace Binary

/-- Whether a numeral lies among the reals that round to the magnitude. The ends of that interval
belong to it for an even significand. Below a power of two the doubles lie twice as close. -/
def readsBack (b : Binary) (d : Numeral) : Bool :=
  let lowest := if b.significand = Nat.pow 2 52 ∧ -1074 < b.exponent then 4 * b.significand - 1
    else 4 * b.significand - 2
  let highest := 4 * b.significand + 2
  let unit := b.exponent - 2
  let scaled := d.digits * Nat.pow 10 d.place.toNat * Nat.pow 2 (-unit).toNat
  let scale := Nat.pow 10 (-d.place).toNat * Nat.pow 2 unit.toNat
  if b.significand % 2 = 0 then decide (lowest * scale ≤ scaled) && decide (scaled ≤ highest * scale)
  else decide (lowest * scale < scaled) && decide (scaled < highest * scale)

def onGrid? (b : Binary) (place : Int) : Option Numeral :=
  let (num, den) := b.overPower place
  let below : Numeral := ⟨num / den, place⟩
  let above : Numeral := ⟨num / den + 1, place⟩
  match b.readsBack below, b.readsBack above with
  | true, true => some ⟨nearestQuotient num den, place⟩
  | true, false => some below
  | false, true => some above
  | false, false => none

def shortestFrom (b : Binary) : Nat → Int → Numeral
  | 0, place => 
    ⟨b.numerator * Nat.pow 10 (-place).toNat / (b.denominator * Nat.pow 10 place.toNat), place⟩
  | grids + 1, place =>
    match b.onGrid? place with
    | some d => d
    | none => shortestFrom b grids (place - 1)

/-- The shortest numeral that reads back; of several the nearest. -/
def shortest (b : Binary) : Numeral :=
  if b.significand = 0 then ⟨0, 0⟩ else (b.shortestFrom 20 (b.leadingPlace + 1)).trim

end Binary

def numberText (x : Float) : String :=
  if x.isNaN then "NaN"
  else
    let sign := if signBit x then "-" else ""
    if x.isInf then sign ++ "inf" else sign ++ (Binary.ofFloat x).shortest.positional

end EconomicImpact
