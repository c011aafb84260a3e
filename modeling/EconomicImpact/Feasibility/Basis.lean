import EconomicImpact.Table.Inverse

/-!
The inverse of a basis in product form: the inverse at the last factoring, and one elementary change for
each column that was replaced since. A change costs no more than the column has entries, but it carries
the rounding of `1 - 1 / pivot`, so after enough of them the basis is factored anew.
-/

set_option autoImplicit false

namespace EconomicImpact

variable {α : Type} [Scalar α] {m : Nat}

def dot {n : Nat} (v w : Vector α n) : α := Scalar.total (v.zipWith (· * ·) w).toList

def unitVector (i : Fin m) : Vector α m := Vector.ofFn fun k => if k = i then 1 else 0

def entryCount (columns : List (Vector α m)) : Nat :=
  (columns.flatMap fun v => v.toList.filter fun a => !Scalar.isZero a).length

structure ColumnChange (α : Type) (m : Nat) where
  row : Fin m
  multipliers : Vector α m

namespace ColumnChange

def enter (column : Vector α m) (row : Fin m) (pivot : α) : ColumnChange α m where
  row
  multipliers := Vector.ofFn fun i => if i = row then 1 - 1 / pivot else column.get i / pivot

def apply (c : ColumnChange α m) (v : Vector α m) : Vector α m :=
  Vector.ofFn fun i => v.get i - v.get c.row * c.multipliers.get i

def applyTransposed (c : ColumnChange α m) (v : Vector α m) : Vector α m :=
  let replaced := v.get c.row - dot c.multipliers v
  Vector.ofFn fun i => if i = c.row then replaced else v.get i

end ColumnChange

structure BasisInverse (α : Type) (m : Nat) where
  factored : Table α m m
  weight : Nat
  changes : List (ColumnChange α m)

namespace BasisInverse

def identity : BasisInverse α m := ⟨Table.identity m, m, []⟩

def ofColumns? (columns : Vector (Vector α m) m) : Option (BasisInverse α m) :=
  (Table.ofFn fun i j => (columns.get j).get i).inverse?.map fun factored =>
    ⟨factored, entryCount columns.toList, []⟩

def apply (b : BasisInverse α m) (v : Vector α m) : Vector α m :=
  b.changes.foldr ColumnChange.apply (b.factored.apply v)

def applyTransposed (b : BasisInverse α m) (v : Vector α m) : Vector α m :=
  let w := b.changes.foldl (fun w c => c.applyTransposed w) v
  Vector.ofFn fun j => Scalar.total (List.ofFn fun i => w.get i * b.factored.get i j)

/-- Adds a change, or factors the basis anew once the changes hold as many entries as it did. -/
def update (b : BasisInverse α m) (change : ColumnChange α m)
    (columns : Vector (Vector α m) m) : BasisInverse α m :=
  let grown := { b with changes := change :: b.changes }
  if entryCount (b.changes.map (·.multipliers)) < b.weight then grown
  else (ofColumns? columns).getD grown

end BasisInverse

end EconomicImpact
