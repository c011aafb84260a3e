set_option autoImplicit false

namespace EconomicImpact

structure Uuid where
  bytes : Vector UInt8 16
  deriving DecidableEq

namespace Uuid

instance : Hashable Uuid := ⟨fun id => hash id.bytes.toList⟩

def nil : Uuid := ⟨Vector.replicate 16 0⟩

instance : Inhabited Uuid := ⟨nil⟩

def hexDigit (n : Nat) : Char :=
  if n < 10 then Char.ofNat (48 + n) else Char.ofNat (87 + n)

def hexText (bytes : List UInt8) : String :=
  String.ofList (bytes.flatMap fun b => [hexDigit (b.toNat / 16), hexDigit (b.toNat % 16)])

def toText (id : Uuid) : String :=
  let bytes := id.bytes.toList
  let group (start len : Nat) := hexText ((bytes.drop start).take len)
  "-".intercalate [group 0 4, group 4 2, group 6 2, group 8 2, group 10 6]

instance : ToString Uuid := ⟨toText⟩

def hexValue? (c : Char) : Option Nat :=
  if '0' ≤ c ∧ c ≤ '9' then some (c.toNat - 48)
  else if 'a' ≤ c ∧ c ≤ 'f' then some (c.toNat - 87)
  else if 'A' ≤ c ∧ c ≤ 'F' then some (c.toNat - 55)
  else none

def pairBytes : List Nat → List UInt8
  | high :: low :: rest => UInt8.ofNat (16 * high + low) :: pairBytes rest
  | _ => []

def ofBytes? (bytes : List UInt8) : Option Uuid :=
  if h : bytes.length = 16 then some ⟨⟨bytes.toArray, by simpa using h⟩⟩ else none

def ofHex? (digits : List Char) : Option Uuid :=
  (digits.mapM hexValue?).bind fun values =>
    if values.length = 32 then ofBytes? (pairBytes values) else none

def ofGroups? (cs : List Char) : Option Uuid :=
  if cs.length = 36 ∧ [8, 13, 18, 23].all (fun i => cs[i]? == some '-') then
    ofHex? (cs.take 8 ++ (cs.drop 9).take 4 ++ (cs.drop 14).take 4 ++ (cs.drop 19).take 4 ++ cs.drop 24)
  else none

def ofText? (text : String) : Option Uuid :=
  let cs := text.toList
  match cs.length with
  | 32 => ofHex? cs
  | 36 => ofGroups? cs
  | 38 =>
    if cs.head? = some '{' ∧ cs.getLast? = some '}' then ofGroups? (cs.drop 1).dropLast else none
  | 45 => if cs.take 9 = "urn:uuid:".toList then ofGroups? (cs.drop 9) else none
  | _ => none

def ofDigest (digest : List UInt8) : Uuid :=
  ⟨Vector.ofFn fun i : Fin 16 =>
    let byte := digest.getD i 0
    if i.val = 6 then (byte &&& 0x0f) ||| 0x50
    else if i.val = 8 then (byte &&& 0x3f) ||| 0x80
    else byte⟩

end Uuid

end EconomicImpact
