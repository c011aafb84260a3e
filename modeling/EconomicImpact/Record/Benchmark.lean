import EconomicImpact.Benchmark
import EconomicImpact.Decimal.Fixed
import EconomicImpact.Record.Vector
import EconomicImpact.Text.Quoted

set_option autoImplicit false

namespace EconomicImpact

namespace Benchmark

def entryOfJson (j : Json) : Decoded (String × Float) := do
  let fields ← j.asRecord ["sector_code", "output_multiplier"]
  return (← fields.withDefault "sector_code" "" Json.asString,
    ← fields.withDefault "output_multiplier" 0 Json.asFloat)

def ofJson (j : Json) : Decoded (OrderedMap String Float) := do
  let fields ← j.asRecord ["sectors"]
  let entries ← fields.withDefault "sectors" [] (Json.asList entryOfJson)
  return .ofList (entries.filter fun (code, _) => code ≠ "")

end Benchmark

def SectorComparison.toJson (c : SectorComparison Float) : Json :=
  .obj [("sector_code", .str c.sectorCode), ("computed", .float c.computed),
    ("benchmark", .float c.benchmark), ("absolute_diff", .float c.absoluteDiff),
    ("pct_diff", .float c.relativeDiff), ("within_tolerance", .bool c.withinTolerance)]

def SectorComparison.line (c : SectorComparison Float) : String :=
  "\n  [" ++ (if c.withinTolerance then "ok" else "!!") ++ "] " ++ c.sectorCode ++
    ": computed=" ++ fixedText 3 c.computed ++ " bench=" ++ fixedText 3 c.benchmark ++
    " diff=" ++ signedFixedText 2 (c.relativeDiff * 100) ++ "%"

namespace BenchmarkReport

def warnings {α : Type} (r : BenchmarkReport α) : List String :=
  (if r.onlyComputed.isEmpty then []
    else ["Sectors in computed but not benchmark: " ++ Text.quotedList r.onlyComputed]) ++
  (if r.onlyBenchmark.isEmpty then []
    else ["Sectors in benchmark but not computed: " ++ Text.quotedList r.onlyBenchmark])

def toJson (r : BenchmarkReport Float) : Json :=
  .obj [("sector_comparisons", .ofList SectorComparison.toJson r.comparisons),
    ("sectors_within_tolerance", .ofNat r.within), ("sectors_outside_tolerance", .ofNat r.outside),
    ("total_sectors", .ofNat r.comparisons.length), ("rmse", .float r.rmse), ("mae", .float r.mae),
    ("max_pct_diff", .float r.maxRelativeDiff), ("tolerance_used", .float r.tolerance),
    ("overall_pass", .bool r.passes), ("warnings", .ofList .str r.warnings)]

def byDivergence (r : BenchmarkReport Float) : List (SectorComparison Float) :=
  r.comparisons.mergeSort fun a b =>
    Scalar.precedes (Scalar.abs b.relativeDiff) (Scalar.abs a.relativeDiff)

def heading (r : BenchmarkReport Float) : List String :=
  ["=== Multiplier Benchmark Validation ===",
    "Tolerance: " ++ fixedText 1 (r.tolerance * 100) ++ "%",
    "Sectors: " ++ toString r.comparisons.length,
    "Pass: " ++ toString r.within ++ " | Fail: " ++ toString r.outside,
    "RMSE: " ++ fixedText 4 r.rmse ++ " | MAE: " ++ fixedText 4 r.mae,
    "Max % diff: " ++ fixedText 2 (r.maxRelativeDiff * 100) ++ "%",
    "Overall: " ++ (if r.passes then "PASS" else "FAIL"),
    "",
    "Per-sector details:"]

def text (r : BenchmarkReport Float) : String :=
  "\n".intercalate r.heading ++ String.join (r.byDivergence.map (·.line)) ++
    if r.warnings.isEmpty then ""
    else "\n\nWarnings:" ++ String.join (r.warnings.map ("\n  - " ++ ·))

end BenchmarkReport

end EconomicImpact
