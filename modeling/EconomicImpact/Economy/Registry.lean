import EconomicImpact.Economy.Model

set_option autoImplicit false

namespace EconomicImpact

structure ModelVersion where
  id : Uuid
  baseYear : Int
  source : String
  sectorCount : Nat
  checksum : String
  denomination : String
  registeredAt : String
  deriving DecidableEq

structure RegisteredModel (α : Type) where
  version : ModelVersion
  economy : Economy α

structure Registry (α : Type) where
  models : List (RegisteredModel α)

namespace Registry

variable {α : Type}

def empty : Registry α := ⟨[]⟩

def versions (r : Registry α) : List ModelVersion := r.models.map (·.version)

def size (r : Registry α) : Nat := r.models.length

def get (r : Registry α) (id : Uuid) : Except (Fault α) (RegisteredModel α) :=
  match r.models.find? (·.version.id == id) with
  | some model => .ok model
  | none => .error (.unknownVersion id)

def register [Scalar α] [SpectralRoutine α] [BitImage α] (r : Registry α) (id : Uuid)
    (registeredAt : String) (snapshot : Snapshot α) (source : String) :
    Except (Fault α) (ModelVersion × Registry α) := do
  let economy ← Economy.ofSnapshot snapshot
  let version : ModelVersion := {
    id
    baseYear := economy.baseYear
    source
    sectorCount := economy.size
    checksum := economy.checksum
    denomination := economy.denomination
    registeredAt }
  return (version, ⟨r.models ++ [⟨version, economy⟩]⟩)

end Registry

end EconomicImpact
