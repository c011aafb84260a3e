import EconomicImpact.Decimal.Shortest
import EconomicImpact.Json.Value
import EconomicImpact.Uuid

set_option autoImplicit false

namespace EconomicImpact.Json

/-- Positional from `1e-5` up to below `1e16`, with a signed exponent beyond. -/
def numeralText (d : Numeral) : String :=
  let cs := Numeral.digitText d.digits
  let point : Int := cs.length + d.place
  if d.digits = 0 then "0.0"
  else if 0 ≤ d.place ∧ point ≤ 16 then d.positional ++ ".0"
  else if -5 < point ∧ point ≤ 16 then d.positional
  else
    let fraction := if cs.length = 1 then [] else '.' :: cs.drop 1
    let sign := if 0 < point then "+" else ""
    String.ofList (cs.take 1 ++ fraction) ++ "e" ++ sign ++ toString (point - 1)

def floatText (x : Float) : String :=
  if x.isFinite then
    (if signBit x then "-" else "") ++ numeralText (Binary.ofFloat x).shortest
  else "null"

def escape (c : Char) : List Char :=
  if c = '"' then ['\\', '"']
  else if c = '\\' then ['\\', '\\']
  else if c = '\x08' then ['\\', 'b']
  else if c = '\x0c' then ['\\', 'f']
  else if c = '\n' then ['\\', 'n']
  else if c = '\r' then ['\\', 'r']
  else if c = '\t' then ['\\', 't']
  else if c.toNat < 0x20 then
    ['\\', 'u', '0', '0', Uuid.hexDigit (c.toNat / 16), Uuid.hexDigit (c.toNat % 16)]
  else [c]

def quote (text : String) : String :=
  String.ofList ('"' :: text.toList.flatMap escape ++ ['"'])

mutual

def compact : Json → String
  | null => "null"
  | bool value => if value then "true" else "false"
  | int value => toString value
  | float value => floatText value
  | str text => quote text
  | arr items => "[" ++ ",".intercalate (compactItems items) ++ "]"
  | obj members => "\x7b" ++ ",".intercalate (compactMembers members) ++ "\x7d"

def compactItems : List Json → List String
  | [] => []
  | item :: rest => compact item :: compactItems rest

def compactMembers : List (String × Json) → List String
  | [] => []
  | (name, value) :: rest => (quote name ++ ":" ++ compact value) :: compactMembers rest

end

def block (opening closing : String) (level : Nat) (lines : List String) : String :=
  if lines.isEmpty then opening ++ closing
  else
    let indent := "\n" ++ String.ofList (List.replicate (2 * (level + 1)) ' ')
    opening ++ indent ++ ("," ++ indent).intercalate lines ++
      "\n" ++ String.ofList (List.replicate (2 * level) ' ') ++ closing

mutual

def pretty (level : Nat) : Json → String
  | arr items => block "[" "]" level (prettyItems (level + 1) items)
  | obj members => block "\x7b" "\x7d" level (prettyMembers (level + 1) members)
  | null => "null"
  | bool value => if value then "true" else "false"
  | int value => toString value
  | float value => floatText value
  | str text => quote text

def prettyItems (level : Nat) : List Json → List String
  | [] => []
  | item :: rest => pretty level item :: prettyItems level rest

def prettyMembers (level : Nat) : List (String × Json) → List String
  | [] => []
  | (name, value) :: rest =>
    (quote name ++ ": " ++ pretty level value) :: prettyMembers level rest

end

end EconomicImpact.Json
