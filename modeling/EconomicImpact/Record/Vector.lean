import EconomicImpact.Json.Decode
import EconomicImpact.OrderedMap
import EconomicImpact.SectorVector
import EconomicImpact.Text.Blank
import EconomicImpact.Workforce.Tier

set_option autoImplicit false

namespace EconomicImpact

namespace SectorVector

def toJson (v : SectorVector Float) : Json :=
  .obj (v.entries.map fun (code, value) => (code, .float value))

def ofJson (j : Json) : Decoded (SectorVector Float) := do
  let members ← j.asMembers
  let entries ← members.mapM fun (code, value) => do return (code, ← value.asFloat)
  match firstRepeat? (entries.map (·.1)) with
  | some code => throw (.duplicateSector code)
  | none => return ⟨entries⟩

end SectorVector

namespace OrderedMap

variable {β : Type}

def yearsToJson (encode : β → Json) (m : OrderedMap Int β) : Json :=
  .obj (m.entries.map fun (year, value) => (toString year, encode value))

def textsToJson (encode : β → Json) (m : OrderedMap String β) : Json :=
  .obj (m.entries.map fun (key, value) => (key, encode value))

def ofMembers (decode : Json → Decoded β) (members : List (String × Json)) :
    Decoded (OrderedMap String β) := do
  let pairs ← members.mapM fun (key, value) => do return (key, ← decode value)
  return .ofList pairs

def textsOfJson (decode : Json → Decoded β) (j : Json) : Decoded (OrderedMap String β) := do
  ofMembers decode (← j.asMembers)

/-- Reads the keys of a map as years; of several texts of one year the greatest counts. -/
def yearsOfTexts (m : OrderedMap String β) : Decoded (OrderedMap Int β) :=
  m.entries.foldlM (fun years (key, value) =>
    match Text.year? key with
    | some year => .ok (years.insert year value)
    | none => .error (.notAYear key)) empty

end OrderedMap

namespace Band

def fields : List String := ["min", "mid", "max"]

def toJson (b : Band Float) : Json :=
  .obj [("min", .float b.min), ("mid", .float b.mid), ("max", .float b.max)]

def ofJson (j : Json) : Decoded (Band Float) := do
  let fields ← j.asRecord fields
  return {
    min := ← fields.required "min" Json.asFloat
    mid := ← fields.required "mid" Json.asFloat
    max := ← fields.required "max" Json.asFloat }

end Band

namespace TierBands

def fields : List String := NationalityTier.all.map (·.name)

def toJson (bands : TierBands Float) : Json :=
  .obj [(NationalityTier.saudiReady.name, bands.saudiReady.toJson),
    (NationalityTier.saudiTrainable.name, bands.saudiTrainable.toJson),
    (NationalityTier.expatReliant.name, bands.expatReliant.toJson)]

def ofJson (j : Json) : Decoded (TierBands Float) := do
  let fields ← j.asRecord fields
  return {
    saudiReady := ← fields.required NationalityTier.saudiReady.name Band.ofJson
    saudiTrainable := ← fields.required NationalityTier.saudiTrainable.name Band.ofJson
    expatReliant := ← fields.required NationalityTier.expatReliant.name Band.ofJson }

end TierBands

end EconomicImpact
