import EconomicImpact.OrderedMap
import EconomicImpact.SectorVector

set_option autoImplicit false

namespace EconomicImpact

def defaultOccupation : String := "9"

def occupationLabel (code : String) : String :=
  match code with
  | "0" => "Armed Forces"
  | "1" => "Managers"
  | "2" => "Professionals"
  | "3" => "Technicians"
  | "4" => "Clerical Support"
  | "5" => "Service and Sales"
  | "6" => "Agricultural Workers"
  | "7" => "Craft Workers"
  | "8" => "Plant/Machine Operators"
  | "9" => "Elementary Occupations"
  | other => "ISCO " ++ other

structure OccupationBridge (α : Type) where
  version : String
  shares : OrderedMap String (OrderedMap String α)
  deriving BEq, DecidableEq

structure OccupationImpact (α : Type) where
  sectorCode : String
  occupationCode : String
  jobs : α
  shareOfSector : α
  assumed : Bool
  deriving DecidableEq

inductive WorkforceFinding (α : Type)
  | weightsDropped (sector : String)
  | weightsNormalized (sector : String) (sum : α)
  | missingBridge (sector : String)
  | missingClassification (sector occupation : String)
  | shareClamped (sector occupation : String) (share : α)
  | missingBaseline (sector : String)
  deriving DecidableEq

structure SectorSpread (α : Type) where
  impacts : List (OccupationImpact α)
  findings : List (WorkforceFinding α)

namespace OccupationBridge

variable {α : Type} [Scalar α]

def withSector (b : OccupationBridge α) (sector : String) (shares : List (String × α)) :
    OccupationBridge α :=
  { b with shares := b.shares.insert sector (.ofList shares) }

def isUsable (weight : α) : Bool := Scalar.isFinite weight && decide (0 ≤ weight)

def defaultSpread (sector : String) (jobs : α) (findings : List (WorkforceFinding α)) :
    SectorSpread α :=
  ⟨[⟨sector, defaultOccupation, jobs, 1, true⟩], findings ++ [.missingBridge sector]⟩

def spreadRow (sector : String) (jobs tolerance : α) (row : List (String × α)) : SectorSpread α :=
  let usable := row.filter fun (_, weight) => isUsable weight
  let dropped := if usable.length = row.length then [] else [.weightsDropped sector]
  let sum := Scalar.total (usable.map (·.2))
  if sum ≤ 0 then defaultSpread sector jobs dropped
  else
    let normalized :=
      if tolerance < Scalar.abs (sum - 1) then [.weightsNormalized sector sum] else []
    ⟨usable.map fun (occupation, weight) =>
        ⟨sector, occupation, jobs * (weight / sum), weight / sum, false⟩,
      dropped ++ normalized⟩

def spreadSector (b : OccupationBridge α) (tolerance : α) (sector : String) (jobs : α) :
    SectorSpread α :=
  match b.shares.get? sector with
  | some row => spreadRow sector jobs tolerance row.entries
  | none => defaultSpread sector jobs []

def spread (b : OccupationBridge α) (jobs : SectorVector α) (tolerance : α) : SectorSpread α :=
  let parts := jobs.entries.map fun (sector, count) => b.spreadSector tolerance sector count
  ⟨parts.flatMap (·.impacts), parts.flatMap (·.findings)⟩

end OccupationBridge

end EconomicImpact
