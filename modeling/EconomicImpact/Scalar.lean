/-!
The numbers an analysis is computed with. Every formula of the library is written once over `Scalar`,
runs on double-precision numbers, and can be read over any ordered field.
-/

set_option autoImplicit false

namespace EconomicImpact

class Scalar (α : Type) extends
    Add α, Sub α, Mul α, Div α, Neg α, Zero α, One α, NatCast α, LT α, LE α where
  decidableLt : ∀ a b : α, Decidable (a < b)
  decidableLe : ∀ a b : α, Decidable (a ≤ b)
  abs : α → α
  isFinite : α → Bool
  /-- A total preorder used for sorting; it agrees with `≤` where that is total. -/
  precedes : α → α → Bool

class SquareRoot (α : Type) where
  sqrt : α → α

namespace Scalar

variable {α : Type} [Scalar α]

instance (a b : α) : Decidable (a < b) := decidableLt a b
instance (a b : α) : Decidable (a ≤ b) := decidableLe a b

def total (xs : List α) : α := xs.foldl (· + ·) 0

/-- The larger of two numbers; a number that is not comparable to itself gives way to the other. -/
def larger (a b : α) : α := if a < b then b else if a ≤ a then a else b

def smaller (a b : α) : α := if b < a then b else if a ≤ a then a else b

def greatest (xs : List α) : α := xs.foldl larger 0

def isZero (a : α) : Bool := decide (a ≤ 0) && decide (0 ≤ a)

def ratio (p q : Nat) : α := (p : α) / (q : α)

def clampUnit (a : α) : α := if a < 0 then 0 else if 1 < a then 1 else a

end Scalar

/-- Place of a double in the total order in which negative zero comes before zero and the values
that are no numbers stand at the two ends. -/
def Float.rank (x : Float) : Int :=
  let bits := x.toBits.toNat
  if bits < Nat.pow 2 63 then bits else (Nat.pow 2 63 : Int) - bits - 1

instance : Scalar Float where
  natCast := Float.ofNat
  decidableLt := Float.decLt
  decidableLe := Float.decLe
  abs := Float.abs
  isFinite := Float.isFinite
  precedes a b := decide (Float.rank a ≤ Float.rank b)

instance : SquareRoot Float where
  sqrt := Float.sqrt

end EconomicImpact
