import EconomicImpact.Decimal.Fixed
import EconomicImpact.Feasibility.Result
import EconomicImpact.Record.Coefficients
import EconomicImpact.Record.Constraint

set_option autoImplicit false

namespace EconomicImpact

def idsToJson (ids : List Uuid) : Json := .ofList (fun id => .str id.toText) ids

def codesToJson (codes : List String) : Json := .ofList .str codes

def FeasibilityTotals.toJson (t : FeasibilityTotals Float) : Json :=
  .obj [("total_unconstrained", .float t.totalUnconstrained),
    ("total_feasible", .float t.totalFeasible), ("total_gap", .float t.totalGap),
    ("gap_pct", .float t.gapShare)]

def BindingConstraint.toJson (b : BindingConstraint Float) : Json :=
  .obj [("constraint_id", .str b.source.id.toText), ("constraint_type", .str b.source.kind.name),
    ("confidence", .str b.source.confidence.name), ("sector_codes", codesToJson b.sectorCodes),
    ("bound", .float b.bound), ("unconstrained_value", .float b.unconstrainedValue),
    ("feasible_value", .float b.feasibleValue), ("gap", .float b.gap),
    ("shadow_price", .float b.shadowPrice), ("relaxed", .bool b.relaxed),
    ("description", .str b.source.describe)]

def ComplianceDiagnostic.toJson (d : ComplianceDiagnostic Float) : Json :=
  .obj [("constraint_id", .str d.source.id.toText), ("constraint_type", .str d.source.kind.name),
    ("sector_code", .str d.sectorCode), ("target_share", .float d.targetShare),
    ("observed_share", .ofOption .float d.observedShare), ("gap", .ofOption .float d.gap),
    ("description", .str d.source.describe)]

namespace Enabler

def action : ConstraintKind → String
  | .ramp => "Accelerate ramp-up of"
  | .labor => "Expand labor supply for"
  | .imports => "Secure import supply for"
  | .capacityCap | .floor | .saudization => "Expand capacity on"

def describe (e : Enabler Float) : String :=
  action e.source.kind ++ " " ++ "+".intercalate e.sectorCodes ++ " (" ++
    fixedText 2 e.outputUnlocked ++ " held back)"

def toJson (e : Enabler Float) : Json :=
  .obj [("priority_rank", .ofNat e.priorityRank),
    ("binding_constraint_id", .str e.source.id.toText),
    ("sector_codes", codesToJson e.sectorCodes), ("output_unlocked", .float e.outputUnlocked),
    ("description", .str e.describe)]

end Enabler

def ConfidenceSummary.toJson (s : ConfidenceSummary) : Json :=
  .obj [("total_constraints", .ofNat s.totalConstraints), ("hard_count", .ofNat s.hardCount),
    ("estimated_count", .ofNat s.estimatedCount), ("assumed_count", .ofNat s.assumedCount),
    ("binding_hard", .ofNat s.bindingHard), ("binding_estimated", .ofNat s.bindingEstimated),
    ("binding_assumed", .ofNat s.bindingAssumed)]

def FeasibilityResult.toJson (r : FeasibilityResult Float) : Json :=
  .obj [("unconstrained_run_id", .ofOption (fun id => .str id.toText) r.unconstrainedRunId),
    ("constraint_set_id", .str r.constraintSetId.toText),
    ("constraint_set_version", .ofNat r.constraintSetVersion),
    ("year", .ofOption .int r.year),
    ("feasible_delta_x", r.feasible.toJson),
    ("unconstrained_delta_x", r.unconstrained.toJson),
    ("gap_vs_unconstrained", r.gap.toJson),
    ("totals", r.totals.toJson),
    ("binding_constraints", .ofList BindingConstraint.toJson r.binding),
    ("slack_constraint_ids", idsToJson r.slack),
    ("inactive_constraint_ids", idsToJson r.inactive),
    ("method", .str r.method.name),
    ("fallback_used", .bool r.fallbackUsed),
    ("fallback_reason", .ofOption (fun reason => .str reason.text) r.fallbackReason),
    ("enablers", .ofList Enabler.toJson r.enablers),
    ("compliance_diagnostics", .ofList ComplianceDiagnostic.toJson r.diagnostics),
    ("confidence_summary", r.confidence.toJson),
    ("warnings", .ofList Warning.toJson r.warnings)]

end EconomicImpact
