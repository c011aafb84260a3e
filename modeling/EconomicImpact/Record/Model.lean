import EconomicImpact.Economy.Registry
import EconomicImpact.Json.Decode

set_option autoImplicit false

namespace EconomicImpact

namespace Snapshot

def rowsOfJson : Json → Decoded (List (List Float)) := Json.asList (Json.asList Json.asFloat)

def flowsOf (fields : Json.Fields) : Decoded (List (List Float)) :=
  match fields.get? "Z", fields.get? "z" with
  | some rows, none | none, some rows => rowsOfJson rows
  | _, _ => .error .malformed

def ofJson (j : Json) : Decoded (Snapshot Float) := do
  let fields ← match j with
    | .arr _ => j.asRecord ["sector_codes", "Z", "x", "base_year", "denomination"]
    | _ => j.asObject ["sector_codes", "Z", "z", "x", "base_year", "denomination"]
  return {
    sectorCodes := ← fields.required "sector_codes" (Json.asList Json.asString)
    flows := ← flowsOf fields
    output := ← fields.required "x" (Json.asList Json.asFloat)
    baseYear := ← fields.required "base_year" Json.asYear
    denomination := ← fields.withDefault "denomination" defaultDenomination Json.asString }

end Snapshot

def ModelVersion.toJson (v : ModelVersion) : Json :=
  .obj [("model_version_id", .str v.id.toText), ("base_year", .int v.baseYear),
    ("source", .str v.source), ("sector_count", .ofNat v.sectorCount),
    ("checksum", .str v.checksum), ("denomination", .str v.denomination),
    ("registered_at", .str v.registeredAt)]

end EconomicImpact
