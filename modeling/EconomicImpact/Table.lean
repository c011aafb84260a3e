import EconomicImpact.Scalar

set_option autoImplicit false

namespace EconomicImpact

structure Table (α : Type) (m n : Nat) where
  rows : Vector (Vector α n) m

namespace Table

variable {α β : Type} {m n : Nat}

def get (t : Table α m n) (i : Fin m) (j : Fin n) : α := (t.rows.get i).get j

def ofFn (f : Fin m → Fin n → α) : Table α m n :=
  ⟨Vector.ofFn fun i => Vector.ofFn (f i)⟩

@[simp] theorem get_ofFn (f : Fin m → Fin n → α) (i : Fin m) (j : Fin n) :
    (ofFn f).get i j = f i j := by
  change (Vector.ofFn fun i => Vector.ofFn (f i))[i][j] = f i j
  simp

theorem ext_get {s t : Table α m n} (agree : ∀ i j, s.get i j = t.get i j) : s = t := by
  obtain ⟨s⟩ := s
  obtain ⟨t⟩ := t
  congr 1
  apply Vector.ext
  intro i hi
  apply Vector.ext
  intro j hj
  exact agree ⟨i, hi⟩ ⟨j, hj⟩

def row (t : Table α m n) (i : Fin m) : List α := List.ofFn fun j => t.get i j

def column (t : Table α m n) (j : Fin n) : List α := List.ofFn fun i => t.get i j

def toLists (t : Table α m n) : List (List α) := List.ofFn t.row

def ofLists [Zero α] (m n : Nat) (rows : List (List α)) : Table α m n :=
  ofFn fun i j => (rows.getD i []).getD j 0

def map (f : α → β) (t : Table α m n) : Table β m n := ofFn fun i j => f (t.get i j)

variable [Scalar α]

def identity (n : Nat) : Table α n n := ofFn fun i j => if i = j then 1 else 0

def sub (s t : Table α m n) : Table α m n := ofFn fun i j => s.get i j - t.get i j

def apply (t : Table α m n) (v : Vector α n) : Vector α m :=
  Vector.ofFn fun i => Scalar.total (List.ofFn fun j => t.get i j * v.get j)

def rowSum (t : Table α m n) (i : Fin m) : α := Scalar.total (t.row i)

def columnSum (t : Table α m n) (j : Fin n) : α := Scalar.total (t.column j)

def oneNorm (t : Table α m n) : α :=
  Scalar.greatest (List.ofFn fun j => Scalar.total ((t.column j).map Scalar.abs))

end Table

structure SquareTable (α : Type) where
  size : Nat
  table : Table α size size

end EconomicImpact
