set_option autoImplicit false

namespace EconomicImpact.Text

def isBlank (c : Char) : Bool :=
  let n := c.toNat
  (9 ≤ n && n ≤ 13) || n == 0x20 || n == 0x85 || n == 0xA0 || n == 0x1680 ||
    (0x2000 ≤ n && n ≤ 0x200A) || n == 0x2028 || n == 0x2029 || n == 0x202F || n == 0x205F ||
    n == 0x3000

def trim (cs : List Char) : List Char :=
  ((cs.dropWhile isBlank).reverse.dropWhile isBlank).reverse

def isDigit (c : Char) : Bool := '0' ≤ c && c ≤ '9'

def natOfDigits? (cs : List Char) : Option Nat :=
  if !cs.isEmpty && cs.all isDigit then some (cs.foldl (fun n c => 10 * n + (c.toNat - 48)) 0)
  else none

def intOfText? : List Char → Option Int
  | '+' :: cs => (natOfDigits? cs).map fun n => n
  | '-' :: cs => (natOfDigits? cs).map fun n => -n
  | cs => (natOfDigits? cs).map fun n => n

def year? (text : String) : Option Int :=
  (intOfText? (trim text.toList)).filter fun n =>
    decide (-(Nat.pow 2 31 : Int) ≤ n) && decide (n < Nat.pow 2 31)

end EconomicImpact.Text
