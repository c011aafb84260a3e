import EconomicImpact.Decimal.Fixed
import EconomicImpact.Decimal.Shortest
import EconomicImpact.Fault

set_option autoImplicit false

namespace EconomicImpact

def Singularity.message : Singularity Float → String
  | unproductive radius =>
    "spectral radius of A is " ++ fixedText 4 radius ++
      " (must be < 1); the economy is not productive"
  | zeroPivot => "(I - A) has a zero pivot"
  | illConditioned condition limit =>
    "condition number " ++ scientificText 3 condition ++ " exceeds limit " ++ scientificText 1 limit
  | nonFiniteInverse => "Leontief inverse has non-finite entries"

def ModelDefect.message : ModelDefect Float → String
  | noSectors => "model has no sectors"
  | duplicateSector code => "duplicate sector code " ++ code
  | duplicateVectorSector code => "duplicate sector code in vector: " ++ code
  | unusableFlows => "Z must be finite and non-negative"
  | unusableOutput code output =>
    "gross output for " ++ code ++ " must be positive, got " ++ numberText output
  | negativeTargets => "RAS targets must be non-negative"

def InputDefect.message : InputDefect Float → String
  | nonFiniteDelta => "unconstrained delta_x contains non-finite values"
  | nonFiniteShock => "shock vector contains non-finite values"
  | unusableDeflator year deflator =>
    "deflator for " ++ toString year ++ " must be positive, got " ++ numberText deflator
  | disorderedTier min mid max =>
    "tier range must satisfy 0 <= min <= mid <= max <= 1, got (" ++
      ", ".intercalate [numberText min, numberText mid, numberText max] ++ ")"
  | nonFiniteMultiplier multiplier =>
    "sensitivity multiplier must be finite, got " ++ numberText multiplier
  | missingYear year => "no result set for year " ++ toString year

def ConstraintDefect.message : ConstraintDefect Float → String
  | nonFiniteValue value => "value " ++ numberText value ++ " is not finite"
  | unknownSector code => "Unknown sector code: " ++ code
  | noSectors => "constraint covers no sectors"
  | coefficientsRequired kind => kind.name ++ " bound requires satellite coefficients"
  | baseRequiredByRamp => "RAMP bound requires base output"
  | baseRequiredByTotal => "ABSOLUTE_TOTAL bound requires base output"

def Contradiction.message : Contradiction → String
  | opposingBounds => "hard floor exceeds hard cap on the same scope"
  | emptyProgram => "hard constraints admit no feasible point"
  | unmetByClipping => "no assignment satisfies all hard constraints"

def Fault.message : Fault Float → String
  | dimensionMismatch context expected actual =>
    "Dimension mismatch in " ++ context ++ ": expected " ++ toString expected ++ ", got " ++
      toString actual
  | singularSystem cause => "Leontief system is singular: " ++ cause.message
  | infeasible cause conflicting =>
    "Infeasible constraint set (" ++ cause.message ++ "); conflicting constraints: [" ++
      ", ".intercalate (conflicting.map (·.toText)) ++ "]"
  | invalidModel cause => "Invalid model: " ++ cause.message
  | unknownSector code => "Unknown sector code: " ++ code
  | unknownVersion id => "Model version " ++ id.toText ++ " not found"
  | invalidInput cause => "Invalid input: " ++ cause.message
  | invalidConstraint id cause => "Invalid constraint " ++ id.toText ++ ": " ++ cause.message

end EconomicImpact
