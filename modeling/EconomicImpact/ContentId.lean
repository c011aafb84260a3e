import EconomicImpact.Digest.Sha256
import EconomicImpact.Json.Printer

set_option autoImplicit false

namespace EconomicImpact

def contentId (space : String) (record : Json) : Uuid :=
  Uuid.ofDigest
    (Sha256.digest (space.toUTF8.toList ++ 0 :: record.compact.toUTF8.toList))

end EconomicImpact
