import EconomicImpact.Decimal.Reading
import EconomicImpact.Json.Value

set_option autoImplicit false

namespace EconomicImpact.Json.Reader

def isBlank (c : Char) : Bool := c == ' ' || c == '\n' || c == '\t' || c == '\r'

def skipBlanks (cs : List Char) : List Char := cs.dropWhile isBlank

def digitValue? (c : Char) : Option Nat :=
  if '0' ≤ c ∧ c ≤ '9' then some (c.toNat - 48) else none

def hexValue? (c : Char) : Option Nat :=
  if '0' ≤ c ∧ c ≤ '9' then some (c.toNat - 48)
  else if 'a' ≤ c ∧ c ≤ 'f' then some (c.toNat - 87)
  else if 'A' ≤ c ∧ c ≤ 'F' then some (c.toNat - 55)
  else none

def unit16? : List Char → Option (Nat × List Char)
  | a :: b :: c :: d :: rest => do
    let digits ← [a, b, c, d].mapM hexValue?
    return (digits.foldl (fun n d => 16 * n + d) 0, rest)
  | _ => none

def escapedUnit? (cs : List Char) : Option (Char × List Char) := do
  let (high, rest) ← unit16? cs
  if 0xDC00 ≤ high ∧ high ≤ 0xDFFF then none
  else if 0xD800 ≤ high ∧ high ≤ 0xDBFF then
    match rest with
    | '\\' :: 'u' :: rest =>
      let (low, rest) ← unit16? rest
      if 0xDC00 ≤ low ∧ low ≤ 0xDFFF then
        some (Char.ofNat (0x10000 + (high - 0xD800) * 0x400 + (low - 0xDC00)), rest)
      else none
    | _ => none
  else some (Char.ofNat high, rest)

def simpleEscape? : Char → Option Char
  | '"' => some '"'
  | '\\' => some '\\'
  | '/' => some '/'
  | 'b' => some '\x08'
  | 'f' => some '\x0c'
  | 'n' => some '\n'
  | 'r' => some '\r'
  | 't' => some '\t'
  | _ => none

def stringTail : Nat → List Char → List Char → Option (List Char × List Char)
  | 0, _, _ => none
  | fuel + 1, seen, cs =>
    match cs with
    | [] => none
    | '"' :: rest => some (seen, rest)
    | '\\' :: 'u' :: rest =>
      match escapedUnit? rest with
      | some (c, rest) => stringTail fuel (c :: seen) rest
      | none => none
    | '\\' :: e :: rest =>
      match simpleEscape? e with
      | some c => stringTail fuel (c :: seen) rest
      | none => none
    | c :: rest => if c.toNat < 0x20 then none else stringTail fuel (c :: seen) rest

def string? (cs : List Char) : Option (String × List Char) :=
  (stringTail (cs.length + 1) [] cs).map fun (seen, rest) => (String.ofList seen.reverse, rest)

def digitsOf (cs : List Char) : List Nat :=
  (cs.takeWhile (digitValue? · |>.isSome)).filterMap digitValue?

def dropDigits (cs : List Char) : List Char := cs.dropWhile (digitValue? · |>.isSome)

def wholeDigits? (cs : List Char) : Option (List Nat × List Char) :=
  match digitsOf cs, dropDigits cs with
  | [], _ => none
  | [0], rest => some ([0], rest)
  | 0 :: _ :: _, _ => none
  | digits, rest => some (digits, rest)

def cutExponent (digits : List Nat) : Nat :=
  digits.foldl (fun n d => min (10 * n + d) 1000000) 0

def fraction? (cs : List Char) : Option (List Nat × List Char) :=
  match cs with
  | '.' :: rest =>
    let digits := digitsOf rest
    if digits.isEmpty then none else some (digits, dropDigits rest)
  | _ => some ([], cs)

def isExponentMark (c : Char) : Bool := c == 'e' || c == 'E'

def exponent? (cs : List Char) : Option (Int × List Char) :=
  match cs with
  | e :: rest =>
    if isExponentMark e then
      let (negative, rest) :=
        match rest with
        | '+' :: rest => (false, rest)
        | '-' :: rest => (true, rest)
        | _ => (false, rest)
      let digits := digitsOf rest
      if digits.isEmpty then none
      else
        let size : Int := cutExponent digits
        some (if negative then -size else size, dropDigits rest)
    else some (0, cs)
  | [] => some (0, cs)

def natOfDigits (digits : List Nat) : Nat := digits.foldl (fun n d => 10 * n + d) 0

def isFraction (cs : List Char) : Bool :=
  match cs with
  | c :: _ => c == '.' || isExponentMark c
  | [] => false

/-- A number after its sign. Whole numbers of 64 bits stay whole; the others become the nearest
double, which must be finite. -/
def number? (negative : Bool) (cs : List Char) : Option (Json × List Char) := do
  let (whole, rest) ← wholeDigits? cs
  let n := natOfDigits whole
  let isWhole := !isFraction rest &&
    if negative then decide (0 < n) && decide (n ≤ Nat.pow 2 63) else decide (n < Nat.pow 2 64)
  if isWhole then return (.int (if negative then -n else n), rest)
  else
    let (fraction, rest) ← fraction? rest
    let (exponent, rest) ← exponent? rest
    let value := nearestFloat (natOfDigits (whole ++ fraction)) (exponent - fraction.length)
    if value.isFinite then return (.float (if negative then -value else value), rest)
    else none

def literal? (word : String) (value : Json) (cs : List Char) : Option (Json × List Char) :=
  if word.toList.isPrefixOf cs then some (value, cs.drop word.length) else none

mutual

/-- A value, where `depth` is the number of levels that may still be opened. -/
def value : Nat → Nat → List Char → Option (Json × List Char)
  | 0, _, _ => none
  | fuel + 1, depth, cs =>
    match skipBlanks cs with
    | 'n' :: rest => literal? "ull" .null rest
    | 't' :: rest => literal? "rue" (.bool true) rest
    | 'f' :: rest => literal? "alse" (.bool false) rest
    | '"' :: rest => (string? rest).map fun (text, rest) => (.str text, rest)
    | '-' :: rest => number? true rest
    | '[' :: rest =>
      if depth = 0 then none
      else
        match skipBlanks rest with
        | ']' :: rest => some (.arr [], rest)
        | rest => items fuel (depth - 1) [] rest
    | '{' :: rest =>
      if depth = 0 then none
      else
        match skipBlanks rest with
        | '}' :: rest => some (.obj [], rest)
        | rest => members fuel (depth - 1) [] rest
    | rest => number? false rest

def items : Nat → Nat → List Json → List Char → Option (Json × List Char)
  | 0, _, _, _ => none
  | fuel + 1, depth, seen, cs =>
    match value fuel depth cs with
    | none => none
    | some (item, rest) =>
      match skipBlanks rest with
      | ',' :: rest => items fuel depth (item :: seen) rest
      | ']' :: rest => some (.arr (item :: seen).reverse, rest)
      | _ => none

def members : Nat → Nat → List (String × Json) → List Char → Option (Json × List Char)
  | 0, _, _, _ => none
  | fuel + 1, depth, seen, cs =>
    match skipBlanks cs with
    | '"' :: rest =>
      match string? rest with
      | none => none
      | some (name, rest) =>
        match skipBlanks rest with
        | ':' :: rest =>
          match value fuel depth rest with
          | none => none
          | some (item, rest) =>
            match skipBlanks rest with
            | ',' :: rest => members fuel depth ((name, item) :: seen) rest
            | '}' :: rest => some (.obj ((name, item) :: seen).reverse, rest)
            | _ => none
        | _ => none
    | _ => none

end

end Reader

def parse? (text : String) : Option Json :=
  let cs := text.toList
  match Reader.value (2 * cs.length + 2) 127 cs with
  | some (value, rest) => if (Reader.skipBlanks rest).isEmpty then some value else none
  | none => none

end EconomicImpact.Json
