import EconomicImpact.Toml.Document
import EconomicImpact.Toml.Scalar

set_option autoImplicit false

namespace EconomicImpact.Toml

def isKeyChar (c : Char) : Bool := c.isAlphanum || c == '_' || c == '-'

def key? (cs : List Char) : Option (String × List Char) :=
  match cs with
  | '"' :: rest => lineString (rest.length + 1) [] rest
  | '\'' :: rest => literalString rest
  | cs =>
    let key := cs.takeWhile isKeyChar
    if key.isEmpty then none else some (String.ofList key, cs.dropWhile isKeyChar)

def keys? : Nat → List Char → Option (List String × String × List Char)
  | 0, _ => none
  | fuel + 1, cs => do
    let (key, rest) ← key? (skipSpaces cs)
    match skipSpaces rest with
    | '.' :: rest =>
      let (path, last, rest) ← keys? fuel rest
      return (key :: path, last, rest)
    | rest => return ([], key, rest)

def comment? (cs : List Char) : Option (List Char) :=
  let isText (c : Char) : Bool := c != '\n' && c != '\r'
  if (cs.takeWhile isText).all isPlain then some (cs.dropWhile isText) else none

def lineEnd? (cs : List Char) : Option (List Char) := do
  let rest ← match skipSpaces cs with
    | '#' :: rest => comment? rest
    | rest => some rest
  match rest with
  | [] => some []
  | rest => newline? rest

def skipLines? : Nat → List Char → Option (List Char)
  | 0, _ => none
  | fuel + 1, cs =>
    match skipSpaces cs with
    | '#' :: rest => (comment? rest).bind (skipLines? fuel)
    | rest =>
      match newline? rest with
      | some rest => skipLines? fuel rest
      | none => some rest

mutual

def value? : Nat → Nat → List Char → Option (Json × List Char)
  | 0, _, _ => none
  | fuel + 1, depth, cs =>
    match cs with
    | '[' :: rest => if depth = 0 then none else items? fuel (depth - 1) [] rest
    | '{' :: rest =>
      if depth = 0 then none
      else
        match skipSpaces rest with
        | '}' :: rest => some (.obj [], rest)
        | rest => pairs? fuel (depth - 1) [] rest
    | cs =>
      match string? cs with
      | some (text, rest) => some (.str text, rest)
      | none => (scalarOfWord? (word cs).1).map fun value => (value, (word cs).2)

def items? : Nat → Nat → List Json → List Char → Option (Json × List Char)
  | 0, _, _, _ => none
  | fuel + 1, depth, seen, cs =>
    match skipLines? (cs.length + 1) cs with
    | some (']' :: rest) => some (.arr seen.reverse, rest)
    | some cs =>
      match value? fuel depth cs with
      | some (value, rest) =>
        match skipLines? (rest.length + 1) rest with
        | some (',' :: rest) => items? fuel depth (value :: seen) rest
        | some (']' :: rest) => some (.arr (value :: seen).reverse, rest)
        | _ => none
      | none => none
    | none => none

def pairs? : Nat → Nat → Members → List Char → Option (Json × List Char)
  | 0, _, _, _ => none
  | fuel + 1, depth, members, cs =>
    match keys? (cs.length + 1) cs with
    | some (path, key, '=' :: rest) =>
      match value? fuel depth (skipSpaces rest) with
      | some (value, rest) =>
        match assign value path key members, skipSpaces rest with
        | some members, ',' :: rest => pairs? fuel depth members rest
        | some members, '}' :: rest => some (.obj (membersToJson members), rest)
        | _, _ => none
      | none => none
    | _ => none

end

def greatestDepth : Nat := 80

def assignment? (cs : List Char) : Option (Line × List Char) := do
  let (path, key, rest) ← keys? (cs.length + 1) cs
  match rest with
  | '=' :: rest =>
    let (value, rest) ← value? (2 * rest.length + 2) greatestDepth (skipSpaces rest)
    return (.assignment path key value, rest)
  | _ => none

def line? : List Char → Option (Line × List Char)
  | '[' :: '[' :: cs => do
    let (path, key, rest) ← keys? (cs.length + 1) cs
    match rest with
    | ']' :: ']' :: rest => return (.further path key, rest)
    | _ => none
  | '[' :: cs => do
    let (path, key, rest) ← keys? (cs.length + 1) cs
    match rest with
    | ']' :: rest => return (.header path key, rest)
    | _ => none
  | cs => assignment? cs

def lines? : Nat → Document → List Char → Option Document
  | 0, _, _ => none
  | fuel + 1, d, cs =>
    match skipLines? (cs.length + 1) cs with
    | none => none
    | some [] => some d
    | some cs =>
      match line? cs with
      | none => none
      | some (line, rest) =>
        match d.add line, lineEnd? rest with
        | some d, some rest => lines? fuel d rest
        | _, _ => none

def parse? (text : String) : Option Json :=
  let cs := match text.toList with
    | '\uFEFF' :: cs => cs
    | cs => cs
  (lines? (cs.length + 1) .empty cs).map (·.toJson)

end EconomicImpact.Toml
