set_option autoImplicit false

namespace EconomicImpact

structure Binary where
  significand : Nat
  exponent : Int
  deriving DecidableEq, Repr

namespace Binary

def ofFloat (x : Float) : Binary :=
  let bits : Nat := x.toBits.toNat
  let fraction : Nat := bits % Nat.pow 2 52
  let biased : Nat := bits / Nat.pow 2 52 % Nat.pow 2 11
  if biased = 0 then ⟨fraction, -1074⟩ else ⟨Nat.pow 2 52 + fraction, (biased : Int) - 1075⟩

def numerator (b : Binary) : Nat := b.significand * Nat.pow 2 b.exponent.toNat

def denominator (b : Binary) : Nat := Nat.pow 2 (-b.exponent).toNat

/-- At most one below the place of the leading decimal digit, and at most one above it. -/
def leadingPlace (b : Binary) : Int :=
  ((b.significand.log2 : Int) + b.exponent) * 30103 / 100000

end Binary

def signBit (x : Float) : Bool := decide (Nat.pow 2 63 ≤ x.toBits.toNat)

def nearestQuotient (num den : Nat) : Nat :=
  let q := num / den
  let twice := 2 * (num % den)
  if twice < den then q else if den < twice then q + 1 else if q % 2 = 0 then q else q + 1

def Binary.overPower (b : Binary) (place : Int) : Nat × Nat :=
  (b.numerator * Nat.pow 10 (-place).toNat, b.denominator * Nat.pow 10 place.toNat)

structure Numeral where
  digits : Nat
  place : Int
  deriving DecidableEq, Repr

namespace Numeral

def trim (d : Numeral) : Numeral :=
  go d.digits.log2 d
where
  go : Nat → Numeral → Numeral
    | 0, d => d
    | fuel + 1, d =>
      if d.digits ≠ 0 ∧ d.digits % 10 = 0 then go fuel ⟨d.digits / 10, d.place + 1⟩ else d

def digitText (n : Nat) : List Char := Nat.toDigits 10 n

def padLeft (width : Nat) (cs : List Char) : List Char :=
  List.replicate (width - cs.length) '0' ++ cs

def withPoint (n places : Nat) : String :=
  let cs := padLeft (places + 1) (digitText n)
  let whole := cs.length - places
  if places = 0 then String.ofList cs
  else String.ofList (cs.take whole ++ '.' :: cs.drop whole)

def positional (d : Numeral) : String :=
  if 0 ≤ d.place then String.ofList (digitText d.digits ++ List.replicate d.place.toNat '0')
  else withPoint d.digits (-d.place).toNat

end Numeral

end EconomicImpact
