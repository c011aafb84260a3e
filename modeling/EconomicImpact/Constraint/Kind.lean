set_option autoImplicit false

namespace EconomicImpact

inductive ConstraintKind
  | capacityCap
  | floor
  | ramp
  | labor
  | imports
  /-- A least national share of employment, reported and never enforced. -/
  | saudization
  deriving DecidableEq, Repr

inductive Sense
  | upper
  | lower
  deriving DecidableEq, Repr

namespace ConstraintKind

def all : List ConstraintKind := [capacityCap, floor, ramp, labor, imports, saudization]

def sense : ConstraintKind → Option Sense
  | capacityCap | ramp | labor | imports => some .upper
  | floor => some .lower
  | saudization => none

def isDiagnostic (kind : ConstraintKind) : Bool := kind.sense.isNone

def isWeighted : ConstraintKind → Bool
  | labor | imports => true
  | _ => false

def name : ConstraintKind → String
  | capacityCap => "CAPACITY_CAP"
  | floor => "FLOOR"
  | ramp => "RAMP"
  | labor => "LABOR"
  | imports => "IMPORT"
  | saudization => "SAUDIZATION"

def defaultUnit : ConstraintKind → String
  | capacityCap | floor | imports => "SAR_MILLIONS"
  | ramp => "GROWTH_RATE"
  | labor => "JOBS"
  | saudization => "FRACTION"

end ConstraintKind

inductive Confidence
  | hard
  | estimated
  | assumed
  deriving DecidableEq, Repr

namespace Confidence

def all : List Confidence := [hard, estimated, assumed]

def name : Confidence → String
  | hard => "HARD"
  | estimated => "ESTIMATED"
  | assumed => "ASSUMED"

end Confidence

inductive BoundScope
  | deltaOnly
  | absoluteTotal
  deriving DecidableEq, Repr

namespace BoundScope

def all : List BoundScope := [deltaOnly, absoluteTotal]

def name : BoundScope → String
  | deltaOnly => "DELTA_ONLY"
  | absoluteTotal => "ABSOLUTE_TOTAL"

end BoundScope

end EconomicImpact
