import EconomicImpact.Record.Vector
import EconomicImpact.Shock.Phased

set_option autoImplicit false

namespace EconomicImpact

def ShockMode.ofJson : Json → Decoded ShockMode := Json.asNamed ShockMode.name ShockMode.all

namespace Shock

def toJson : Shock Float → Json
  | positional values => .arr (values.map .float)
  | keyed vector => vector.toJson

def ofJson (j : Json) : Decoded (Shock Float) :=
  match j.asList Json.asFloat, SectorVector.ofJson j with
  | .ok values, _ => .ok (.positional values)
  | _, .ok vector => .ok (.keyed vector)
  | _, _ => .error .malformed

end Shock

namespace Schedule

def toJson (s : Schedule Float) : Json :=
  .obj [("shocks", s.shocks.yearsToJson Shock.toJson),
    ("deflators", s.deflators.yearsToJson .float)]

structure Texts where
  shocks : OrderedMap String (Shock Float)
  deflators : OrderedMap String Float

def recordOfJson (j : Json) : Decoded Texts := do
  let fields ← j.asObject ["shocks", "deflators"]
  return {
    shocks := ← fields.required "shocks" (OrderedMap.textsOfJson Shock.ofJson)
    deflators := ← fields.withDefault "deflators" .empty (OrderedMap.textsOfJson Json.asFloat) }

def bareOfJson (j : Json) : Decoded Texts := do
  return ⟨← OrderedMap.textsOfJson Shock.ofJson j, .empty⟩

def textsOfJson (j : Json) : Decoded Texts :=
  match recordOfJson j, bareOfJson j with
  | .ok texts, _ => .ok texts
  | _, .ok texts => .ok texts
  | _, _ => .error .malformed

/-- Reads a record with shocks, or else an object of shocks; the keys must be years. -/
def ofJson (j : Json) : Decoded (Schedule Float) := do
  let texts ← textsOfJson j
  return {
    shocks := ← texts.shocks.yearsOfTexts
    deflators := ← texts.deflators.yearsOfTexts }

end Schedule

def Impact.toJson (i : Impact Float) : Json :=
  .obj [("delta_x", i.deltaX.toJson), ("direct_impact", i.direct.toJson),
    ("indirect_impact", i.indirect.toJson)]

def Phased.toJson (p : Phased Float) : Json :=
  .obj [("mode", .str p.mode.name),
    ("annual", p.annual.yearsToJson Impact.toJson),
    ("cumulative_delta_x", p.cumulativeDeltaX.toJson),
    ("peak_year", .ofOption .int p.peakYear),
    ("peak_total", .float p.peakTotal)]

end EconomicImpact
