import EconomicImpact.Fault
import EconomicImpact.Scalar

set_option autoImplicit false

namespace EconomicImpact

inductive NationalityTier
  | saudiReady
  | saudiTrainable
  | expatReliant
  deriving DecidableEq, Repr

namespace NationalityTier

def all : List NationalityTier := [saudiReady, saudiTrainable, expatReliant]

def name : NationalityTier → String
  | saudiReady => "saudi_ready"
  | saudiTrainable => "saudi_trainable"
  | expatReliant => "expat_reliant"

end NationalityTier

structure Band (α : Type) where
  min : α
  mid : α
  max : α
  deriving BEq, DecidableEq, Repr

namespace Band

variable {α : Type} [Scalar α]

def zero : Band α := ⟨0, 0, 0⟩

def add (a b : Band α) : Band α := ⟨a.min + b.min, a.mid + b.mid, a.max + b.max⟩

def total (bands : List (Band α)) : Band α := bands.foldl add zero

def checkShares (b : Band α) : Except (Fault α) Unit :=
  if decide (0 ≤ b.min) && decide (b.min ≤ b.mid) && decide (b.mid ≤ b.max) && decide (b.max ≤ 1) then
    .ok ()
  else .error (.invalidInput (.disorderedTier b.min b.mid b.max))

def around (share sensitivity : α) : Band α :=
  let mid := Scalar.clampUnit share
  ⟨Scalar.larger (mid - sensitivity) 0, mid, Scalar.smaller (mid + sensitivity) 1⟩

/-- The national jobs among a number of jobs, in ascending order also for losses. -/
def ofShares (jobs : α) (shares : Band α) : Band α :=
  if 0 ≤ jobs then ⟨jobs * shares.min, jobs * shares.mid, jobs * shares.max⟩
  else ⟨jobs * shares.max, jobs * shares.mid, jobs * shares.min⟩

end Band

structure TierBands (α : Type) where
  saudiReady : Band α
  saudiTrainable : Band α
  expatReliant : Band α
  deriving BEq, DecidableEq

namespace TierBands

variable {α : Type}

def get (bands : TierBands α) : NationalityTier → Band α
  | .saudiReady => bands.saudiReady
  | .saudiTrainable => bands.saudiTrainable
  | .expatReliant => bands.expatReliant

variable [Scalar α]

def check (bands : TierBands α) : Except (Fault α) Unit := do
  bands.saudiReady.checkShares
  bands.saudiTrainable.checkShares
  bands.expatReliant.checkShares

def standard : TierBands α where
  saudiReady := ⟨Scalar.ratio 70 100, Scalar.ratio 85 100, 1⟩
  saudiTrainable := ⟨Scalar.ratio 20 100, Scalar.ratio 40 100, Scalar.ratio 60 100⟩
  expatReliant := ⟨0, Scalar.ratio 5 100, Scalar.ratio 20 100⟩

end TierBands

end EconomicImpact
