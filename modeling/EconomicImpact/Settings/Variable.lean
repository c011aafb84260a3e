import EconomicImpact.Json.Value
import EconomicImpact.Text.Numeral
import EconomicImpact.Toml.Scalar

set_option autoImplicit false

namespace EconomicImpact.Settings.Variable

def marker : List Char := "impact__".toList

def pointed : List Char → List Char
  | '_' :: '_' :: rest => '.' :: pointed rest
  | c :: rest => c :: pointed rest
  | [] => []

def path? (name : String) : Option (List String) :=
  let cs := (Text.trim name.toList).map Char.toLower
  if marker.isPrefixOf cs then
    let key := String.ofList (Text.trim (pointed (cs.drop marker.length)))
    let parts := key.splitOn "."
    if parts.any (·.isEmpty) then none else some parts
  else none

def isBlank (c : Char) : Bool :=
  c == ' ' || c == '\t' || c == '\n' || c == '\r' || c == '\x0c'

def skipBlanks (cs : List Char) : List Char := cs.dropWhile isBlank

def isSeparator (c : Char) : Bool := c == ',' || c == '{' || c == '}' || c == '[' || c == ']'

def plain (cs : List Char) : Json :=
  let text := Json.str (String.ofList cs)
  match if cs.contains '.' then Text.float? cs else none with
  | some x => .float x
  | none =>
    match Text.intOfText? cs with
    | some n => if -(Nat.pow 2 63 : Int) ≤ n ∧ n < Nat.pow 2 64 then .int n else text
    | none => text

mutual

def value? : Nat → List Char → Option (Json × List Char)
  | 0, _ => none
  | fuel + 1, cs =>
    (match skipBlanks cs with
      | 't' :: 'r' :: 'u' :: 'e' :: rest => some (Json.bool true, rest)
      | 'f' :: 'a' :: 'l' :: 's' :: 'e' :: rest => some (Json.bool false, rest)
      | '{' :: rest => pairs? fuel [] rest
      | '[' :: rest => items? fuel [] rest
      | '"' :: rest =>
        (Toml.lineString (rest.length + 1) [] rest).map fun (text, rest) => (.str text, rest)
      | '\'' :: c :: '\'' :: rest => some (.str (String.singleton c), rest)
      | '\'' :: _ => none
      | cs => some (plain (Text.trim (cs.takeWhile (!isSeparator ·))),
          cs.dropWhile (!isSeparator ·))).map fun (value, rest) => (value, skipBlanks rest)

def items? : Nat → List Json → List Char → Option (Json × List Char)
  | 0, _, _ => none
  | fuel + 1, seen, cs =>
    match cs with
    | ']' :: rest => some (.arr seen.reverse, rest)
    | cs =>
      match value? fuel cs with
      | some (value, ',' :: rest) => items? fuel (value :: seen) rest
      | some (value, ']' :: rest) => some (.arr (value :: seen).reverse, rest)
      | _ => none

def pairs? : Nat → List (String × Json) → List Char → Option (Json × List Char)
  | 0, _, _ => none
  | fuel + 1, seen, cs =>
    match cs with
    | '}' :: rest => some (.obj seen.reverse, rest)
    | cs =>
      match pair? fuel cs with
      | some (pair, ',' :: rest) => pairs? fuel (pair :: seen) rest
      | some (pair, '}' :: rest) => some (.obj (pair :: seen).reverse, rest)
      | _ => none

def pair? : Nat → List Char → Option ((String × Json) × List Char)
  | 0, _ => none
  | fuel + 1, cs =>
    match key? (skipBlanks cs) with
    | some (key, rest) =>
      match skipBlanks rest with
      | '=' :: rest => (value? fuel rest).map fun (value, rest) => ((key, value), rest)
      | _ => none
    | none => none
where
  key? (cs : List Char) : Option (String × List Char) :=
    let isKeyChar (c : Char) : Bool := c.isAlphanum || c == '_' || c == '-'
    match cs with
    | '"' :: rest => Toml.lineString (rest.length + 1) [] rest
    | cs =>
      if (cs.takeWhile isKeyChar).isEmpty then none
      else some (String.ofList (cs.takeWhile isKeyChar), cs.dropWhile isKeyChar)

end

def ofText (text : String) : Json :=
  match value? (3 * text.length + 3) text.toList with
  | some (value, []) => value
  | _ => .str text

def nest (value : Json) : List String → Json
  | [] => value
  | key :: path => .obj [(key, nest value path)]

def overlay? (name text : String) : Option Json := (path? name).map (nest (ofText text))

end EconomicImpact.Settings.Variable
