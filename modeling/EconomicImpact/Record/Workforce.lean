import EconomicImpact.Decimal.Fixed
import EconomicImpact.Record.Coefficients
import EconomicImpact.Workforce.Decomposition

set_option autoImplicit false

namespace EconomicImpact

def WorkforceFinding.warning : WorkforceFinding Float → Warning
  | weightsDropped sector =>
    ⟨.bridgeNotNormalized, some sector, "negative or non-finite bridge weights dropped"⟩
  | weightsNormalized sector sum =>
    ⟨.bridgeNotNormalized, some sector,
      "bridge weights sum to " ++ fixedText 6 sum ++ "; normalized"⟩
  | missingBridge sector =>
    ⟨.missingBridge, some sector,
      "no occupation bridge; all jobs assigned to ISCO " ++ defaultOccupation ++ " (ASSUMED)"⟩
  | missingClassification sector occupation =>
    ⟨.missingClassification, some sector,
      "no nationality classification for occupation " ++ occupation ++ "; using " ++
        NationalityTier.expatReliant.name⟩
  | shareClamped sector occupation share =>
    ⟨.ratioOutOfRange, some sector,
      "current_saudi_pct=" ++ numberText share ++ " for occupation " ++ occupation ++
        " clamped to [0, 1]"⟩
  | missingBaseline sector =>
    ⟨.missingBaseline, some sector, "Saudization target present but no baseline workforce"⟩

namespace NationalityTier

def ofJson : Json → Decoded NationalityTier := Json.asNamed name all

end NationalityTier

namespace DeltaSource

def ofJson : Json → Decoded DeltaSource := Json.asNamed name all

end DeltaSource

namespace OccupationBridge

def ofJson (j : Json) : Decoded (OccupationBridge Float) := do
  let fields ← j.asRecord ["version", "shares"]
  return {
    version := ← fields.withDefault "version" "" Json.asString
    shares := ← fields.required "shares"
      (OrderedMap.textsOfJson (OrderedMap.textsOfJson Json.asFloat)) }

end OccupationBridge

namespace Classification

def ofJson (j : Json) : Decoded (Classification Float) := do
  let fields ← j.asRecord
    ["sector_code", "occupation_code", "tier", "current_saudi_pct", "rationale"]
  return {
    sectorCode := ← fields.required "sector_code" Json.asString
    occupationCode := ← fields.required "occupation_code" Json.asString
    tier := ← fields.required "tier" NationalityTier.ofJson
    currentShare := ← fields.optional "current_saudi_pct" Json.asFloat
    rationale := ← fields.withDefault "rationale" "" Json.asString }

end Classification

namespace Classifications

def ofJson (j : Json) : Decoded (Classifications Float) := do
  let fields ← j.asRecord ["version", "entries"]
  return {
    version := ← fields.withDefault "version" "" Json.asString
    entries := ← fields.required "entries" (Json.asList Classification.ofJson) }

end Classifications

namespace ShareGoal

def ofJson (j : Json) : Decoded (ShareGoal Float) := do
  let fields ← j.asRecord ["sector_code", "effective_pct", "range_low", "range_high"]
  return {
    sectorCode := ← fields.required "sector_code" Json.asString
    effective := ← fields.required "effective_pct" Json.asFloat
    low := ← fields.required "range_low" Json.asFloat
    high := ← fields.required "range_high" Json.asFloat }

def toJson (goal : ShareGoal Float) : Json :=
  .obj [("sector_code", .str goal.sectorCode), ("effective_pct", .float goal.effective),
    ("range_low", .float goal.low), ("range_high", .float goal.high)]

end ShareGoal

namespace BaselineWorkforce

def ofJson (j : Json) : Decoded (BaselineWorkforce Float) := do
  let fields ← j.asRecord ["sector_code", "total_employment", "saudi_employment"]
  return {
    sectorCode := ← fields.required "sector_code" Json.asString
    totalEmployment := ← fields.required "total_employment" Json.asFloat
    nationalEmployment := ← fields.optional "saudi_employment" Json.asFloat }

end BaselineWorkforce

namespace WorkforceInputs

def ofJson (j : Json) : Decoded (WorkforceInputs Float) := do
  let fields ← j.asRecord ["bridge", "classifications", "targets", "baseline"]
  return {
    bridge := ← fields.required "bridge" OccupationBridge.ofJson
    classifications := ← fields.required "classifications" Classifications.ofJson
    goals := ← fields.withDefault "targets" [] (Json.asList ShareGoal.ofJson)
    baseline := ← fields.withDefault "baseline" [] (Json.asList BaselineWorkforce.ofJson) }

end WorkforceInputs

namespace WorkforceKey

def ofJson (j : Json) : Decoded WorkforceKey := do
  let fields ← j.asRecord ["run_id", "coefficients_version_id", "delta_x_source"]
  return {
    runId := ← fields.required "run_id" Json.asUuid
    coefficientsVersionId := ← fields.required "coefficients_version_id" Json.asUuid
    source := ← fields.required "delta_x_source" DeltaSource.ofJson }

def toJson (key : WorkforceKey) : Json :=
  .obj [("run_id", .str key.runId.toText),
    ("coefficients_version_id", .str key.coefficientsVersionId.toText),
    ("delta_x_source", .str key.source.name)]

end WorkforceKey

def OccupationImpact.toJson (i : OccupationImpact Float) : Json :=
  .obj [("sector_code", .str i.sectorCode), ("occupation_code", .str i.occupationCode),
    ("occupation_label", .str (occupationLabel i.occupationCode)), ("jobs", .float i.jobs),
    ("share_of_sector", .float i.shareOfSector), ("assumed", .bool i.assumed)]

def NationalitySplit.toJson (s : NationalitySplit Float) : Json :=
  .obj [("sector_code", .str s.sectorCode), ("occupation_code", .str s.occupationCode),
    ("tier", .str s.tier.name), ("total_jobs", .float s.totalJobs),
    ("saudi_jobs", s.nationalJobs.toJson),
    ("current_saudi_pct", .ofOption .float s.currentShare), ("assumed", .bool s.assumed),
    ("rationale", .str s.rationale)]

def ComplianceCheck.toJson (c : ComplianceCheck Float) : Json :=
  .obj [("status", .str c.status.name), ("target", .ofOption ShareGoal.toJson c.goal),
    ("projected_pct", .ofOption Band.toJson c.projected), ("gap_pct", .ofOption Band.toJson c.gap),
    ("gap_jobs", .ofOption .float c.gapJobs)]

def TierJobs.toJson (t : TierJobs Float) : Json :=
  .obj [("tier", .str t.tier.name), ("jobs", .float t.jobs), ("saudi_jobs", t.nationalJobs.toJson),
    ("gap_pct", .ofOption .float t.gap)]

def SectorWorkforce.toJson (s : SectorWorkforce Float) : Json :=
  .obj [("sector_code", .str s.sectorCode), ("total_jobs", .float s.totalJobs),
    ("saudi_jobs", s.nationalJobs.toJson), ("tiers", .ofList TierJobs.toJson s.tiers),
    ("compliance", s.compliance.toJson),
    ("training_gap_occupations", .ofList .str s.trainingGapOccupations)]

def TrainingGap.toJson (g : TrainingGap Float) : Json :=
  .obj [("sector_code", .str g.sectorCode), ("occupation_code", .str g.occupationCode),
    ("total_jobs", .float g.totalJobs), ("gap_jobs", .float g.gapJobs),
    ("target_pct", .ofOption .float g.target)]

def ComplianceCounts.toJson (c : ComplianceCounts) : Json :=
  .obj [("compliant", .ofNat c.compliant), ("at_risk", .ofNat c.atRisk),
    ("non_compliant", .ofNat c.nonCompliant), ("no_target", .ofNat c.noTarget),
    ("insufficient_data", .ofNat c.insufficientData)]

namespace WorkforceResult

def warnings (r : WorkforceResult Float) : List Warning := r.findings.map (·.warning)

def toJson (r : WorkforceResult Float) : Json :=
  .obj [("key", r.key.toJson), ("idempotency_key", .str r.key.text),
    ("bridge_version", .str r.bridgeVersion),
    ("classification_version", .str r.classificationVersion),
    ("sectors", .ofList SectorWorkforce.toJson r.sectors),
    ("occupations", .ofList OccupationImpact.toJson r.occupations),
    ("nationality_splits", .ofList NationalitySplit.toJson r.splits),
    ("total_jobs", .float r.totalJobs), ("total_saudi_jobs", r.totalNationalJobs.toJson),
    ("compliance_counts", r.complianceCounts.toJson),
    ("total_gap_jobs", .float r.totalGapJobs),
    ("training_gap", .ofList TrainingGap.toJson r.trainingGap),
    ("data_quality_notes", .ofList Warning.toJson r.warnings)]

end WorkforceResult

end EconomicImpact
