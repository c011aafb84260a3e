import EconomicImpact.Constraint.Kind
import EconomicImpact.Uuid

set_option autoImplicit false

namespace EconomicImpact

inductive Singularity (α : Type)
  | unproductive (radius : α)
  | zeroPivot
  | illConditioned (condition limit : α)
  | nonFiniteInverse

inductive ModelDefect (α : Type)
  | noSectors
  | duplicateSector (code : String)
  | duplicateVectorSector (code : String)
  | unusableFlows
  | unusableOutput (code : String) (output : α)
  | negativeTargets

inductive InputDefect (α : Type)
  | nonFiniteDelta
  | nonFiniteShock
  | unusableDeflator (year : Int) (deflator : α)
  | disorderedTier (min mid max : α)
  | nonFiniteMultiplier (multiplier : α)
  | missingYear (year : Int)

inductive ConstraintDefect (α : Type)
  | nonFiniteValue (value : α)
  | unknownSector (code : String)
  | noSectors
  | coefficientsRequired (kind : ConstraintKind)
  | baseRequiredByRamp
  | baseRequiredByTotal

inductive Contradiction
  | opposingBounds
  | emptyProgram
  | unmetByClipping
  deriving DecidableEq

inductive Fault (α : Type)
  | dimensionMismatch (context : String) (expected actual : Nat)
  | singularSystem (cause : Singularity α)
  | infeasible (cause : Contradiction) (conflicting : List Uuid)
  | invalidModel (cause : ModelDefect α)
  | unknownSector (code : String)
  | unknownVersion (id : Uuid)
  | invalidInput (cause : InputDefect α)
  | invalidConstraint (id : Uuid) (cause : ConstraintDefect α)

def Fault.blocksModel {α : Type} : Fault α → Bool
  | .singularSystem _ | .invalidModel _ => true
  | _ => false

end EconomicImpact
