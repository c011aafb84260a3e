set_option autoImplicit false

namespace EconomicImpact

inductive WarningCode
  | ratioOutOfRange
  | nonFiniteCoefficient
  | bridgeNotNormalized
  | missingBridge
  | missingClassification
  | missingBaseline
  | unmatchedSector
  | fallbackApplied
  deriving DecidableEq, Repr

namespace WarningCode

def all : List WarningCode :=
  [ratioOutOfRange, nonFiniteCoefficient, bridgeNotNormalized, missingBridge, missingClassification,
    missingBaseline, unmatchedSector, fallbackApplied]

def name : WarningCode → String
  | ratioOutOfRange => "RATIO_OUT_OF_RANGE"
  | nonFiniteCoefficient => "NON_FINITE_COEFFICIENT"
  | bridgeNotNormalized => "BRIDGE_NOT_NORMALIZED"
  | missingBridge => "MISSING_BRIDGE"
  | missingClassification => "MISSING_CLASSIFICATION"
  | missingBaseline => "MISSING_BASELINE"
  | unmatchedSector => "UNMATCHED_SECTOR"
  | fallbackApplied => "FALLBACK_APPLIED"

end WarningCode

structure Warning where
  code : WarningCode
  sector : Option String
  message : String
  deriving DecidableEq, Repr

def Warning.line (w : Warning) : String :=
  match w.sector with
  | some sector => "[" ++ w.code.name ++ "] " ++ sector ++ ": " ++ w.message
  | none => "[" ++ w.code.name ++ "] " ++ w.message

end EconomicImpact
