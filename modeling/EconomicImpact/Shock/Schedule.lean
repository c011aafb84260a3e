import EconomicImpact.OrderedMap
import EconomicImpact.SectorVector

set_option autoImplicit false

namespace EconomicImpact

inductive ShockMode
  | perYear
  | cumulative
  deriving DecidableEq, Repr

namespace ShockMode

def all : List ShockMode := [perYear, cumulative]

def name : ShockMode → String
  | perYear => "per_year"
  | cumulative => "cumulative"

end ShockMode

inductive Shock (α : Type)
  | positional (values : List α)
  | keyed (vector : SectorVector α)
  deriving BEq, DecidableEq

namespace Shock

variable {α : Type}

def map (f : α → α) : Shock α → Shock α
  | positional values => positional (values.map f)
  | keyed vector => keyed (vector.map f)

variable [Scalar α] {n : Nat}

def align (order : Vector String n) : Shock α → Except (Fault α) (Vector α n)
  | positional values =>
    if sameLength : values.length = n then .ok ⟨values.toArray, by simpa using sameLength⟩
    else .error (.dimensionMismatch "shock vector" n values.length)
  | keyed vector => vector.alignSparse order

def resolve (shock : Shock α) (order : Vector String n) : Except (Fault α) (Vector α n) := do
  let values ← shock.align order
  if values.toList.any fun v => !Scalar.isFinite v then throw (.invalidInput .nonFiniteShock)
  return values

end Shock

structure Schedule (α : Type) where
  shocks : OrderedMap Int (Shock α)
  deflators : OrderedMap Int α
  deriving BEq, DecidableEq

namespace Schedule

variable {α : Type}

def empty : Schedule α := ⟨.empty, .empty⟩

def isEmpty (s : Schedule α) : Bool := s.shocks.isEmpty

def years (s : Schedule α) : List Int := s.shocks.keys

def withYear (s : Schedule α) (year : Int) (shock : Shock α) : Schedule α :=
  { s with shocks := s.shocks.insert year shock }

def withDeflator (s : Schedule α) (year : Int) (deflator : α) : Schedule α :=
  { s with deflators := s.deflators.insert year deflator }

variable [Scalar α]

def scaled (s : Schedule α) (factor : α) : Schedule α :=
  { s with shocks := s.shocks.map (Shock.map (· * factor)) }

variable {n : Nat}

def realShock (s : Schedule α) (order : Vector String n) (year : Int) (shock : Shock α) :
    Except (Fault α) (Vector α n) := do
  let deflator := (s.deflators.get? year).getD 1
  if Scalar.isFinite deflator && decide (0 < deflator) then
    return (← shock.resolve order).map (· / deflator)
  else throw (.invalidInput (.unusableDeflator year deflator))

def runningSums (start : Vector α n) : List (Int × Vector α n) → List (Int × Vector α n)
  | [] => []
  | (year, v) :: rest =>
    let sum := start.zipWith (· + ·) v
    (year, sum) :: runningSums sum rest

def effectiveShocks (s : Schedule α) (order : Vector String n) (mode : ShockMode) :
    Except (Fault α) (List (Int × Vector α n)) := do
  let real ← s.shocks.entries.mapM fun (year, shock) => do
    return (year, ← s.realShock order year shock)
  match mode with
  | .perYear => return real
  | .cumulative => return runningSums (Vector.replicate n 0) real

end Schedule

end EconomicImpact
