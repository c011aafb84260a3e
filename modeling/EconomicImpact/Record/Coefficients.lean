import EconomicImpact.ContentId
import EconomicImpact.Decimal.Shortest
import EconomicImpact.Finding
import EconomicImpact.Record.Vector
import EconomicImpact.Satellite

set_option autoImplicit false

namespace EconomicImpact

open Json.Fields (faultOf)

namespace WarningCode

def ofJson : Json → Decoded WarningCode := Json.asNamed name all

end WarningCode

def Warning.toJson (w : Warning) : Json :=
  .obj [("code", .str w.code.name), ("sector", .ofOption .str w.sector), ("message", .str w.message)]

def CoefficientFinding.warning : CoefficientFinding Float → Warning
  | nonFinite ratio sector value =>
    ⟨.nonFiniteCoefficient, some sector, ratio.name ++ "=" ++ numberText value ++ " treated as 0"⟩
  | outOfRange ratio sector value =>
    ⟨.ratioOutOfRange, some sector, ratio.name ++ "=" ++ numberText value ++ " outside [0, 1]"⟩

namespace Coefficients

def recordSpace : String := "satellite_coefficients"

def ofVectors (jobs imports valueAdded : SectorVector Float) : Coefficients Float where
  versionId := contentId recordSpace (.arr [jobs.toJson, imports.toJson, valueAdded.toJson])
  jobs := jobs
  imports := imports
  valueAdded := valueAdded

def toJson (c : Coefficients Float) : Json :=
  .obj [("version_id", .str c.versionId.toText), (Ratio.jobs.name, c.jobs.toJson),
    (Ratio.imports.name, c.imports.toJson), (Ratio.valueAdded.name, c.valueAdded.toJson)]

def ofJson (j : Json) : Decoded (Coefficients Float) := do
  let fields ← j.asRecord
    ["version_id", Ratio.jobs.name, Ratio.imports.name, Ratio.valueAdded.name]
  fields.checkInOrder ([("version_id", faultOf (Json.asOption Json.asUuid))] ++
    [Ratio.jobs, .imports, .valueAdded].map fun ratio =>
      (ratio.name, faultOf SectorVector.ofJson))
  let version ← fields.optional "version_id" Json.asUuid
  let jobs ← fields.required Ratio.jobs.name SectorVector.ofJson
  let imports ← fields.required Ratio.imports.name SectorVector.ofJson
  let valueAdded ← fields.required Ratio.valueAdded.name SectorVector.ofJson
  let coefficients := ofVectors jobs imports valueAdded
  match version with
  | some versionId => return { coefficients with versionId }
  | none => return coefficients

end Coefficients

def SatelliteTotals.toJson (t : SatelliteTotals Float) : Json :=
  .obj [("employment", .float t.employment), ("import_leakage", .float t.importLeakage),
    ("domestic_output", .float t.domesticOutput), ("value_added", .float t.valueAdded)]

namespace SatelliteAccounts

def warnings (a : SatelliteAccounts Float) : List Warning := a.findings.map (·.warning)

def toJson (a : SatelliteAccounts Float) : Json :=
  .obj [("employment", a.employment.toJson), ("import_leakage", a.importLeakage.toJson),
    ("domestic_output", a.domesticOutput.toJson), ("value_added", a.valueAdded.toJson),
    ("totals", a.totals.toJson),
    ("coefficients_version_id", .str a.coefficientsVersionId.toText),
    ("warnings", .ofList Warning.toJson a.warnings)]

end SatelliteAccounts

end EconomicImpact
