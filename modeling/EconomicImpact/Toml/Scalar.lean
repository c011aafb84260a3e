import EconomicImpact.Json.Value
import EconomicImpact.Text.Numeral

set_option autoImplicit false

namespace EconomicImpact.Toml

def isSpace (c : Char) : Bool := c == ' ' || c == '\t'

def isPlain (c : Char) : Bool := c == '\t' || (0x20 ≤ c.toNat && c.toNat ≠ 0x7F)

def skipSpaces (cs : List Char) : List Char := cs.dropWhile isSpace

def newline? : List Char → Option (List Char)
  | '\n' :: rest => some rest
  | '\r' :: '\n' :: rest => some rest
  | _ => none

def isBreakOrSpace (c : Char) : Bool := isSpace c || c == '\n' || c == '\r'

def digit? (base : Nat) (c : Char) : Option Nat :=
  let value? : Option Nat :=
    if '0' ≤ c ∧ c ≤ '9' then some (c.toNat - 48)
    else if 'a' ≤ c ∧ c ≤ 'f' then some (c.toNat - 87)
    else if 'A' ≤ c ∧ c ≤ 'F' then some (c.toNat - 55)
    else none
  value?.filter (· < base)

def natOfDigits? (base : Nat) (cs : List Char) : Option Nat :=
  if cs.isEmpty then none
  else (cs.mapM (digit? base)).map fun digits => digits.foldl (fun n d => base * n + d) 0

def codePoint? (digits : Nat) (cs : List Char) : Option (Char × List Char) := do
  let n ← if digits ≤ cs.length then natOfDigits? 16 (cs.take digits) else none
  if n.isValidChar then some (Char.ofNat n, cs.drop digits) else none

def escape? : List Char → Option (Char × List Char)
  | 'b' :: rest => some ('\x08', rest)
  | 't' :: rest => some ('\t', rest)
  | 'n' :: rest => some ('\n', rest)
  | 'f' :: rest => some ('\x0c', rest)
  | 'r' :: rest => some ('\r', rest)
  | '"' :: rest => some ('"', rest)
  | '\\' :: rest => some ('\\', rest)
  | 'u' :: rest => codePoint? 4 rest
  | 'U' :: rest => codePoint? 8 rest
  | _ => none

def lineString : Nat → List Char → List Char → Option (String × List Char)
  | 0, _, _ => none
  | fuel + 1, seen, cs =>
    match cs with
    | '"' :: rest => some (String.ofList seen.reverse, rest)
    | '\\' :: rest =>
      match escape? rest with
      | some (c, rest) => lineString fuel (c :: seen) rest
      | none => none
    | c :: rest => if isPlain c then lineString fuel (c :: seen) rest else none
    | [] => none

def literalString (cs : List Char) : Option (String × List Char) :=
  match cs.dropWhile (· != '\''), cs.takeWhile (· != '\'') with
  | _ :: rest, text => if text.all isPlain then some (String.ofList text, rest) else none
  | [], _ => none

/-- Of a run of three to five quotes the last three close a string. -/
def closing? (quote : Char) (cs : List Char) : Option (List Char × List Char) :=
  let run := min 5 (cs.takeWhile (· == quote)).length
  if run < 3 then none else some (List.replicate (run - 3) quote, cs.drop run)

def continued? (cs : List Char) : Option (List Char) :=
  match newline? (skipSpaces cs) with
  | some rest => some (rest.dropWhile isBreakOrSpace)
  | none => none

def blockString (quote : Char) : Nat → List Char → List Char → Option (String × List Char)
  | 0, _, _ => none
  | fuel + 1, seen, cs =>
    match closing? quote cs with
    | some (quotes, rest) => some (String.ofList (seen.reverse ++ quotes), rest)
    | none =>
      match newline? cs with
      | some rest => blockString quote fuel ('\n' :: seen) rest
      | none =>
        match cs with
        | '\\' :: rest =>
          if quote = '\'' then blockString quote fuel ('\\' :: seen) rest
          else
            match continued? rest, escape? rest with
            | some rest, _ => blockString quote fuel seen rest
            | none, some (c, rest) => blockString quote fuel (c :: seen) rest
            | none, none => none
        | c :: rest => if isPlain c then blockString quote fuel (c :: seen) rest else none
        | [] => none

def openedBlock (quote : Char) (cs : List Char) : Option (String × List Char) :=
  let body := (newline? cs).getD cs
  blockString quote (body.length + 1) [] body

def string? : List Char → Option (String × List Char)
  | '"' :: '"' :: '"' :: rest => openedBlock '"' rest
  | '\'' :: '\'' :: '\'' :: rest => openedBlock '\'' rest
  | '"' :: rest => lineString (rest.length + 1) [] rest
  | '\'' :: rest => literalString rest
  | _ => none

def ungrouped? (base : Nat) : List Char → Option (List Char)
  | [] => none
  | [c] => (digit? base c).map fun _ => [c]
  | c :: '_' :: rest => do
    let _ ← digit? base c
    return c :: (← ungrouped? base rest)
  | c :: rest => do
    let _ ← digit? base c
    return c :: (← ungrouped? base rest)

def wholeDigits? (cs : List Char) : Option (List Char) :=
  (ungrouped? 10 cs).filter fun digits => digits.length = 1 || digits.head? != some '0'

def splitSign : List Char → Bool × List Char
  | '+' :: cs => (false, cs)
  | '-' :: cs => (true, cs)
  | cs => (false, cs)

def integer? (cs : List Char) : Option Int :=
  let value? : Option Int :=
    match cs with
    | '0' :: 'x' :: rest => ((ungrouped? 16 rest).bind (natOfDigits? 16)).map Int.ofNat
    | '0' :: 'o' :: rest => ((ungrouped? 8 rest).bind (natOfDigits? 8)).map Int.ofNat
    | '0' :: 'b' :: rest => ((ungrouped? 2 rest).bind (natOfDigits? 2)).map Int.ofNat
    | cs =>
      let (negative, digits) := splitSign cs
      ((wholeDigits? digits).bind (natOfDigits? 10)).map fun n => if negative then -n else n
  value?.filter fun n => decide (-(Nat.pow 2 63 : Int) ≤ n) && decide (n < Nat.pow 2 63)

def exponent? : List Char → Option Int
  | [] => some 0
  | _ :: cs =>
    let (negative, digits) := splitSign cs
    ((ungrouped? 10 digits).bind (natOfDigits? 10)).map fun n => if negative then -n else n

def fraction? : List Char → Option (List Char)
  | '.' :: cs => ungrouped? 10 cs
  | [] => some []
  | _ => none

def decimal? (cs : List Char) : Option Float := do
  let (negative, cs) := splitSign cs
  if !cs.any fun c => c == '.' || Text.isExponentMark c then none
  let mantissa := cs.takeWhile (!Text.isExponentMark ·)
  let whole ← wholeDigits? (mantissa.takeWhile (· != '.'))
  let fraction ← fraction? (mantissa.dropWhile (· != '.'))
  let exponent ← exponent? (cs.dropWhile (!Text.isExponentMark ·))
  let significand ← natOfDigits? 10 (whole ++ fraction)
  let value := nearestFloat significand (exponent - fraction.length)
  if negative then some (-value) else if value.isFinite then some value else none

def specialFloat? (cs : List Char) : Option Float :=
  let (negative, name) := splitSign cs
  let value? : Option Float :=
    if name = ['i', 'n', 'f'] then some (1 / 0)
    else if name = ['n', 'a', 'n'] then some (0 / 0)
    else none
  value?.map fun value => if negative then -value else value

def isLeapYear (year : Nat) : Bool := year % 4 = 0 && (year % 100 ≠ 0 || year % 400 = 0)

def daysInMonth (year month : Nat) : Nat :=
  if month = 2 then (if isLeapYear year then 29 else 28)
  else if month ∈ [4, 6, 9, 11] then 30 else 31

def isDate (cs : List Char) : Bool :=
  match cs with
  | [y₁, y₂, y₃, y₄, '-', m₁, m₂, '-', d₁, d₂] =>
    match natOfDigits? 10 [y₁, y₂, y₃, y₄], natOfDigits? 10 [m₁, m₂], natOfDigits? 10 [d₁, d₂] with
    | some year, some month, some day =>
      1 ≤ month && month ≤ 12 && 1 ≤ day && decide (day ≤ daysInMonth year month)
    | _, _, _ => false
  | _ => false

def isHourMinute (cs : List Char) : Bool :=
  match cs with
  | [h₁, h₂, ':', m₁, m₂] =>
    match natOfDigits? 10 [h₁, h₂], natOfDigits? 10 [m₁, m₂] with
    | some hour, some minute => hour ≤ 23 && minute ≤ 59
    | _, _ => false
  | _ => false

def isSecond (cs : List Char) : Bool :=
  match cs with
  | ':' :: s₁ :: s₂ :: fraction =>
    (match natOfDigits? 10 [s₁, s₂] with
      | some second => decide (second ≤ 60)
      | none => false) &&
    (match fraction with
      | [] => true
      | '.' :: digits => (natOfDigits? 10 digits).isSome
      | _ => false)
  | _ => false

def isTime (cs : List Char) : Bool := isHourMinute (cs.take 5) && isSecond (cs.drop 5)

def isOffset (cs : List Char) : Bool :=
  match cs with
  | [] => true
  | ['Z'] | ['z'] => true
  | '+' :: rest | '-' :: rest => isHourMinute rest
  | _ => false

def isOffsetMark (c : Char) : Bool := c == 'Z' || c == 'z' || c == '+' || c == '-'

def isZonedTime (cs : List Char) : Bool :=
  isTime (cs.takeWhile (!isOffsetMark ·)) && isOffset (cs.dropWhile (!isOffsetMark ·))

def isDateTime (cs : List Char) : Bool :=
  isTime cs || isDate cs ||
    (isDate (cs.take 10) && ((cs[10]?.map fun c => c == 'T' || c == 't' || c == ' ') == some true) &&
      isZonedTime (cs.drop 11))

def isWordChar (c : Char) : Bool :=
  c.isAlphanum || c == '_' || c == '+' || c == '-' || c == '.' || c == ':'

def word (cs : List Char) : List Char × List Char :=
  let first := cs.takeWhile isWordChar
  let rest := cs.dropWhile isWordChar
  match rest with
  | ' ' :: d :: more =>
    if isDate first && d.isDigit then
      (first ++ ' ' :: (d :: more).takeWhile isWordChar, (d :: more).dropWhile isWordChar)
    else (first, rest)
  | _ => (first, rest)

def dateTime (text : List Char) : Json := .obj [("datetime", .str (String.ofList text))]

def scalarOfWord? (cs : List Char) : Option Json :=
  if cs = ['t', 'r', 'u', 'e'] then some (.bool true)
  else if cs = ['f', 'a', 'l', 's', 'e'] then some (.bool false)
  else if isDateTime cs then some (dateTime cs)
  else
    match integer? cs with
    | some n => some (.int n)
    | none =>
      match decimal? cs with
      | some x => some (.float x)
      | none => (specialFloat? cs).map .float

end EconomicImpact.Toml
