import EconomicImpact.SectorVector

set_option autoImplicit false

namespace EconomicImpact

inductive Ratio
  | jobs
  | imports
  | valueAdded
  deriving DecidableEq, Repr

namespace Ratio

def name : Ratio → String
  | jobs => "jobs_coeff"
  | imports => "import_ratio"
  | valueAdded => "va_ratio"

def isShare : Ratio → Bool
  | jobs => false
  | imports | valueAdded => true

end Ratio

inductive CoefficientFinding (α : Type)
  | nonFinite (ratio : Ratio) (sector : String) (value : α)
  | outOfRange (ratio : Ratio) (sector : String) (value : α)
  deriving DecidableEq

structure Coefficients (α : Type) where
  versionId : Uuid
  jobs : SectorVector α
  imports : SectorVector α
  valueAdded : SectorVector α
  deriving BEq, DecidableEq

structure AlignedCoefficients (α : Type) (n : Nat) where
  jobs : Vector α n
  imports : Vector α n
  valueAdded : Vector α n
  findings : List (CoefficientFinding α)

namespace Coefficients

variable {α : Type} [Scalar α] {n : Nat}

def zeros (codes : List String) : Coefficients α :=
  ⟨.nil, .zeros codes, .zeros codes, .zeros codes⟩

def finding? (ratio : Ratio) (sector : String) (value : α) : Option (CoefficientFinding α) :=
  if !Scalar.isFinite value then some (.nonFinite ratio sector value)
  else if ratio.isShare && (decide (value < 0) || decide (1 < value)) then
    some (.outOfRange ratio sector value)
  else none

def sanitize (value : α) : α := if Scalar.isFinite value then value else 0

def findings (ratio : Ratio) (order : Vector String n) (values : Vector α n) :
    List (CoefficientFinding α) :=
  (order.toList.zip values.toList).filterMap fun (sector, value) => finding? ratio sector value

def align (c : Coefficients α) (order : Vector String n) :
    Except (Fault α) (AlignedCoefficients α n) := do
  let jobs ← c.jobs.alignExact order Ratio.jobs.name
  let imports ← c.imports.alignExact order Ratio.imports.name
  let valueAdded ← c.valueAdded.alignExact order Ratio.valueAdded.name
  return {
    jobs := jobs.map sanitize
    imports := imports.map sanitize
    valueAdded := valueAdded.map sanitize
    findings := findings .jobs order jobs ++ findings .imports order imports ++
      findings .valueAdded order valueAdded }

end Coefficients

structure SatelliteTotals (α : Type) where
  employment : α
  importLeakage : α
  domesticOutput : α
  valueAdded : α
  deriving BEq, DecidableEq

structure SatelliteAccounts (α : Type) where
  employment : SectorVector α
  importLeakage : SectorVector α
  domesticOutput : SectorVector α
  valueAdded : SectorVector α
  totals : SatelliteTotals α
  coefficientsVersionId : Uuid
  findings : List (CoefficientFinding α)
  deriving DecidableEq

def Coefficients.accounts {α : Type} [Scalar α] (c : Coefficients α) (deltaX : SectorVector α) :
    Except (Fault α) (SatelliteAccounts α) := do
  let aligned ← c.align deltaX.codes
  let employment := deltaX.values.zipWith (· * ·) aligned.jobs
  let imports := deltaX.values.zipWith (· * ·) aligned.imports
  let valueAdded := deltaX.values.zipWith (· * ·) aligned.valueAdded
  let domestic := deltaX.values.zipWith (· - ·) imports
  return {
    employment := .ofAligned deltaX.codes employment
    importLeakage := .ofAligned deltaX.codes imports
    domesticOutput := .ofAligned deltaX.codes domestic
    valueAdded := .ofAligned deltaX.codes valueAdded
    totals := {
      employment := Scalar.total employment.toList
      importLeakage := Scalar.total imports.toList
      domesticOutput := Scalar.total domestic.toList
      valueAdded := Scalar.total valueAdded.toList }
    coefficientsVersionId := c.versionId
    findings := aligned.findings }

end EconomicImpact
