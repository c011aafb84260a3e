import EconomicImpact.Table

/-!
The spectral radius of a square table: reflections bring it to upper Hessenberg form, double-shift
steps bring that to blocks of order one and two, and the radius is the largest modulus of their
eigenvalues.
-/

set_option autoImplicit false

namespace EconomicImpact

namespace Spectrum

structure Grid (α : Type) where
  order : Nat
  cells : Array (Array α)

section

variable {α : Type} [Scalar α]

namespace Grid

def read (g : Grid α) (i j : Nat) : α := (g.cells.getD i #[]).getD j 0

def build (order : Nat) (f : Nat → Nat → α) : Grid α :=
  ⟨order, Array.ofFn fun i : Fin order => Array.ofFn fun j : Fin order => f i j⟩

def write (g : Grid α) (i j : Nat) (value : α) : Grid α :=
  { g with cells := g.cells.modify i (·.set! j value) }

def update (g : Grid α) (f : Nat → Nat → α → α) : Grid α :=
  build g.order fun i j => f i j (g.read i j)

def magnitude (g : Grid α) : α :=
  g.cells.foldl (fun best line => line.foldl (fun best x =>
    if best < Scalar.abs x then Scalar.abs x else best) best) 0

end Grid

def half : α := Scalar.ratio 1 2

def two : α := ((2 : Nat) : α)

def negligible : α := Scalar.ratio 1 (Nat.pow 2 52)

def sign (x : α) : α := if 0 ≤ x then 1 else -1

def dot (xs ys : List α) : α := Scalar.total (xs.zipWith (· * ·) ys)

variable [SquareRoot α]

/-- The unit axis of the reflection that maps a column onto its first coordinate and the coordinate
that results, or the column itself if it is zero. -/
structure Reflection (α : Type) where
  axis : List α
  norm : α
  proper : Bool

def reflectionOf (column : List α) : Reflection α :=
  let squared := dot column column
  let norm := SquareRoot.sqrt squared
  let first := column.headD 0
  let signed := sign first * norm
  let factor := (squared + Scalar.abs first * norm) * two
  let shifted := (first + signed) :: column.drop 1
  if Scalar.isZero factor then ⟨shifted, signed, false⟩
  else
    let scaled := shifted.map (· / SquareRoot.sqrt factor)
    let length := SquareRoot.sqrt (dot scaled scaled)
    ⟨scaled.map (· / length), -signed, true⟩

def reflectLeft (g : Grid α) (axis : List α) (top left : Nat) (s : α) : Grid α :=
  let height := axis.length
  let factors := Array.ofFn fun j : Fin g.order =>
    dot axis ((List.range height).map fun r => g.read (top + r) j) * (s * -two)
  g.update fun i j x =>
    if left ≤ j ∧ top ≤ i ∧ i < top + height then
      factors.getD j 0 * axis.getD (i - top) 0 + s * x
    else x

def reflectRight (g : Grid α) (axis : List α) (left bottom : Nat) (s : α) : Grid α :=
  let width := axis.length
  let products := Array.ofFn fun i : Fin g.order =>
    dot ((List.range width).map fun c => g.read i (left + c)) axis
  g.update fun i j x =>
    if i < bottom ∧ left ≤ j ∧ j < left + width then
      s * -two * axis.getD (j - left) 0 * products.getD i 0 + s * x
    else x

def hessenbergStep (g : Grid α) (k : Nat) : Grid α :=
  let r := reflectionOf ((List.range (g.order - (k + 1))).map fun i => g.read (k + 1 + i) k)
  let reflected :=
    if r.proper then
      reflectLeft (reflectRight g r.axis (k + 1) g.order (sign r.norm)) r.axis (k + 1) (k + 1)
        (sign r.norm)
    else g
  reflected.update fun i j x =>
    if j = k ∧ i = k + 1 then Scalar.abs r.norm else if j = k ∧ k + 1 < i then 0 else x

def hessenberg (g : Grid α) : Grid α := (List.range (g.order - 1)).foldl hessenbergStep g

def isNegligible (g : Grid α) (i : Nat) : Bool :=
  decide (Scalar.abs (g.read (i + 1) i) ≤
    negligible * (Scalar.abs (g.read (i + 1) (i + 1)) + Scalar.abs (g.read i i)))

def activeEnd (g : Grid α) : Nat → Grid α × Nat
  | 0 => (g, 0)
  | i + 1 => if isNegligible g i then activeEnd (g.write (i + 1) i 0) i else (g, i + 1)

def activeStart (g : Grid α) : Nat → Grid α × Nat
  | 0 => (g, 0)
  | i + 1 =>
    if Scalar.isZero (g.read (i + 1) i) || isNegligible g i then (g.write (i + 1) i 0, i + 1)
    else activeStart g i

def activeBlock (g : Grid α) (last : Nat) : Grid α × Nat × Nat :=
  match activeEnd g last with
  | (g, 0) => (g, 0, 0)
  | (g, n + 1) =>
    let (g, start) := activeStart g n
    (g, start, n + 1)

def realPair? (g : Grid α) (k : Nat) : Option (α × α) :=
  let spread := (g.read k k - g.read (k + 1) (k + 1)) * half
  let discriminant := g.read (k + 1) k * g.read k (k + 1) + spread * spread
  if 0 ≤ discriminant then
    let middle := (g.read k k + g.read (k + 1) (k + 1)) * half
    let root := SquareRoot.sqrt discriminant
    some (middle + root, middle - root)
  else none

def rotation? (g : Grid α) (k : Nat) : Option (α × α) :=
  let below := g.read (k + 1) k
  if Scalar.isZero below then none
  else
    (realPair? g k).map fun (first, second) =>
      let x₁ := first - g.read (k + 1) (k + 1)
      let x₂ := second - g.read (k + 1) (k + 1)
      let x := if Scalar.abs x₂ < Scalar.abs x₁ then x₁ else x₂
      let length := SquareRoot.sqrt (Scalar.abs x * Scalar.abs x + below * below)
      if 0 < length then (Scalar.abs x / length, below / (sign x * length)) else (1, 0)

def splitPair (g : Grid α) (k : Nat) : Grid α :=
  match rotation? g k with
  | none => g
  | some (c, s) =>
    let turnedRows := g.update fun i j x =>
      if j < k then x
      else if i = k then g.read k j * c - -s * g.read (k + 1) j
      else if i = k + 1 then -s * g.read k j + g.read (k + 1) j * c
      else x
    let turned := turnedRows.update fun i j x =>
      if k + 1 < i then x
      else if j = k then turnedRows.read i k * c + s * turnedRows.read i (k + 1)
      else if j = k + 1 then -s * turnedRows.read i k + turnedRows.read i (k + 1) * c
      else x
    turned.write (k + 1) k 0

def bulgeStep (start last : Nat) (s : Grid α × List α) (k : Nat) : Grid α × List α :=
  let (g, column) := s
  let r := reflectionOf column
  let g :=
    if r.proper then
      let g := if start < k then
          ((g.write k (k - 1) r.norm).write (k + 1) (k - 1) 0).write (k + 2) (k - 1) 0 else g
      reflectRight (reflectLeft g r.axis k k 1) r.axis k (min (k + 4) (last + 1)) 1
    else g
  let z := if k + 2 < last then g.read (k + 3) k else column.getD 2 0
  (g, [g.read (k + 1) k, g.read (k + 2) k, z])

def shiftStep (g : Grid α) (start last : Nat) : Grid α :=
  let m := last - 1
  let h (i j : Nat) := g.read (start + i) (start + j)
  let trace := g.read last last + g.read m m
  let determinant := g.read last last * g.read m m - g.read last m * g.read m last
  let column :=
    [h 0 0 * h 0 0 + h 0 1 * h 1 0 - trace * h 0 0 + determinant,
      h 1 0 * (h 0 0 + h 1 1 - trace), h 1 0 * h 2 1]
  let (g, column) :=
    ((List.range (m - start)).map (start + ·)).foldl (bulgeStep start last) (g, column)
  let r := reflectionOf (column.take 2)
  if r.proper then
    let g := (g.write m (m - 1) r.norm).write last (m - 1) 0
    reflectRight (reflectLeft g r.axis m m 1) r.axis m (last + 1) 1
  else g

/-- Reduces active blocks until none is left; there is no answer once the steps are used up. -/
def reduce : Nat → Grid α → Nat → Nat → Option (Grid α)
  | 0, g, start, last => if last = start then some g else none
  | steps + 1, g, start, last =>
    if last = start then some g
    else if start + 1 < last then
      let (g, start, last) := activeBlock (shiftStep g start last) last
      reduce steps g start last
    else
      let g := splitPair g start
      if 2 < last then
        let (g, start, last) := activeBlock g (last - 2)
        reduce steps g start last
      else some g

def blockForm? (g : Grid α) : Option (Grid α) :=
  if g.order < 2 then some g
  else if g.order = 2 then some (splitPair g 0)
  else
    let size := g.magnitude
    let (h, start, last) := activeBlock (hessenberg (g.update fun _ _ x => x / size)) (g.order - 1)
    (reduce (256 * g.order) h start last).map (·.update fun _ _ x => x * size)

def moduli (g : Grid α) : Nat → Nat → List α
  | 0, _ => []
  | rows + 1, k =>
    let single := SquareRoot.sqrt (g.read k k * g.read k k + 0 * 0)
    match rows with
    | 0 => [single]
    | rest + 1 =>
      if Scalar.isZero (g.read (k + 1) k) then single :: moduli g (rest + 1) (k + 1)
      else
        let spread := (g.read k k - g.read (k + 1) (k + 1)) * half
        let discriminant := g.read (k + 1) k * g.read k (k + 1) + spread * spread
        let imaginary := SquareRoot.sqrt (-discriminant)
        let middle := (g.read (k + 1) (k + 1) + g.read k k) * half
        let pair := SquareRoot.sqrt (middle * middle + imaginary * imaginary)
        pair :: pair :: moduli g rest (k + 2)

end

end Spectrum

namespace Table

open Spectrum

def toGrid {α : Type} {n : Nat} (t : Table α n n) : Grid α :=
  ⟨n, t.rows.toArray.map (·.toArray)⟩

def spectralRadius? {α : Type} [Scalar α] [SquareRoot α] {n : Nat} (t : Table α n n) : Option α :=
  (blockForm? t.toGrid).map fun blocks => Scalar.greatest (moduli blocks n 0)

end Table

/-- The routine that a model's spectral radius is taken from. -/
class SpectralRoutine (α : Type) where
  radius : {n : Nat} → Table α n n → α

-- A radius that was not found is no number, so it is not below one.
instance : SpectralRoutine Float where
  radius t := t.spectralRadius?.getD (0 / 0)

end EconomicImpact
