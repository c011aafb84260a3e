import EconomicImpact.Record.Settings
import EconomicImpact.Settings.Variable
import EconomicImpact.Toml.Printer
import EconomicImpact.Toml.Reader

set_option autoImplicit false

namespace EconomicImpact.Settings

def load (document : Option String) (environment : List (String × String)) :
    Option (Settings Float) := do
  let ofDocument ← match document with
    | some text => Toml.parse? text
    | none => some (.obj [])
  let overlays := environment.filterMap fun (name, text) => Variable.overlay? name text
  let merged := overlays.foldl Json.overlay (standard.toJson.overlay ofDocument)
  (ofJson merged).toOption

def document? (s : Settings Float) : Option String := Toml.print? s.toJson

end EconomicImpact.Settings
