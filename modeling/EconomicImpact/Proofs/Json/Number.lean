import Mathlib
import EconomicImpact.Json.Printer
import EconomicImpact.Json.Reader

set_option autoImplicit false

namespace EconomicImpact.Json

namespace Reader

inductive Closed : List Char → Prop
  | done : Closed []
  | mark {c : Char} (rest : List Char) (closing : c = ',' ∨ c = ']' ∨ c = '}') : Closed (c :: rest)

def exponentSign (cs : List Char) : Bool × List Char :=
  match cs with
  | '+' :: rest => (false, rest)
  | '-' :: rest => (true, rest)
  | _ => (false, cs)

theorem exponent_eq (c : Char) (cs : List Char) :
    exponent? (c :: cs) =
      if isExponentMark c then
        let (negative, rest) := exponentSign cs
        if (digitsOf rest).isEmpty then none
        else
          let size : Int := cutExponent (digitsOf rest)
          some (if negative then -size else size, dropDigits rest)
      else some (0, c :: cs) := rfl

def staysWhole (negative : Bool) (whole : List Nat) (rest : List Char) : Bool :=
  !isFraction rest &&
    if negative then decide (0 < natOfDigits whole) && decide (natOfDigits whole ≤ Nat.pow 2 63)
    else decide (natOfDigits whole < Nat.pow 2 64)

def decimal? (negative : Bool) (whole : List Nat) (rest : List Char) :
    Option (Json × List Char) := do
  let (fraction, rest) ← fraction? rest
  let (exponent, rest) ← exponent? rest
  let value := nearestFloat (natOfDigits (whole ++ fraction)) (exponent - fraction.length)
  if value.isFinite then some (.float (if negative then -value else value), rest) else none

theorem number_eq (negative : Bool) (cs : List Char) :
    number? negative cs = (wholeDigits? cs).bind fun (whole, rest) =>
      if staysWhole negative whole rest then
        let n := natOfDigits whole
        some (.int (if negative then -n else n), rest)
      else decimal? negative whole rest := rfl

section closed

variable {rest : List Char} (closed : Closed rest)

include closed

theorem Closed.no_digit : rest.takeWhile (digitValue? · |>.isSome) = [] := by
  cases closed with
  | done => rfl
  | mark rest closing => rcases closing with rfl | rfl | rfl <;> rfl

theorem digits_of_append (cs : List Char) : digitsOf (cs ++ rest) = digitsOf cs := by
  refine congrArg (List.filterMap digitValue?) ?_
  rw [List.takeWhile_append, closed.no_digit, List.append_nil]
  split
  · rename_i all
    exact ((List.takeWhile_prefix _).eq_of_length all).symm
  · rfl

theorem drop_digits_append (cs : List Char) : dropDigits (cs ++ rest) = dropDigits cs ++ rest := by
  have kept : rest.dropWhile (digitValue? · |>.isSome) = rest := by
    simpa [closed.no_digit] using
      List.takeWhile_append_dropWhile (p := (digitValue? · |>.isSome)) (l := rest)
  rw [dropDigits, List.dropWhile_append, kept]
  split
  · rename_i none
    rw [dropDigits, List.isEmpty_iff.mp none, List.nil_append]
  · rfl

theorem is_fraction_append (cs : List Char) : isFraction (cs ++ rest) = isFraction cs := by
  cases cs with
  | cons c cs => rfl
  | nil =>
      cases closed with
      | done => rfl
      | mark rest closing => rcases closing with rfl | rfl | rfl <;> rfl

theorem whole_digits_append (cs : List Char) :
    wholeDigits? (cs ++ rest) = (wholeDigits? cs).map fun (digits, left) => (digits, left ++ rest) := by
  unfold wholeDigits?
  rw [digits_of_append closed, drop_digits_append closed]
  match digitsOf cs with
  | [] => rfl
  | [0] => rfl
  | 0 :: _ :: _ => rfl
  | [digit + 1] => rfl
  | (digit + 1) :: _ :: _ => rfl

theorem fraction_append (cs : List Char) :
    fraction? (cs ++ rest) = (fraction? cs).map fun (digits, left) => (digits, left ++ rest) := by
  have absent (c : Char) (tail : List Char) (other : c ≠ '.') :
      fraction? (c :: tail) = some ([], c :: tail) := by
    simp [fraction?, other]
  cases cs with
  | nil =>
      cases closed with
      | done => rfl
      | mark rest closing => rcases closing with rfl | rfl | rfl <;> rfl
  | cons c tail =>
      by_cases point : c = '.'
      · subst point
        rw [List.cons_append, fraction?, fraction?, digits_of_append closed,
          drop_digits_append closed]
        cases (digitsOf tail).isEmpty <;> rfl
      · rw [List.cons_append, absent c _ point, absent c tail point]
        rfl

theorem exponent_sign_append (cs : List Char) :
    exponentSign (cs ++ rest) = ((exponentSign cs).1, (exponentSign cs).2 ++ rest) := by
  have unsigned (c : Char) (tail : List Char) (plus : c ≠ '+') (minus : c ≠ '-') :
      exponentSign (c :: tail) = (false, c :: tail) := by
    simp [exponentSign, plus, minus]
  cases cs with
  | nil =>
      cases closed with
      | done => rfl
      | mark rest closing => rcases closing with rfl | rfl | rfl <;> rfl
  | cons c tail =>
      by_cases plus : c = '+'
      · subst plus
        rfl
      · by_cases minus : c = '-'
        · subst minus
          rfl
        · rw [List.cons_append, unsigned c _ plus minus, unsigned c tail plus minus]
          rfl

theorem exponent_append (cs : List Char) :
    exponent? (cs ++ rest) = (exponent? cs).map fun (size, left) => (size, left ++ rest) := by
  cases cs with
  | nil =>
      cases closed with
      | done => rfl
      | mark rest closing => rcases closing with rfl | rfl | rfl <;> rfl
  | cons c tail =>
      rw [List.cons_append, exponent_eq, exponent_eq, exponent_sign_append closed]
      cases isExponentMark c with
      | false => rfl
      | true =>
          simp only [if_true, digits_of_append closed, drop_digits_append closed]
          cases (digitsOf (exponentSign tail).2).isEmpty <;> rfl

theorem decimal_append (negative : Bool) (whole : List Nat) (cs : List Char) :
    decimal? negative whole (cs ++ rest) =
      (decimal? negative whole cs).map fun (j, left) => (j, left ++ rest) := by
  unfold decimal?
  rw [fraction_append closed]
  cases fraction? cs with
  | none => rfl
  | some parts =>
      obtain ⟨fraction, left⟩ := parts
      simp only [Option.map_some, Option.bind_eq_bind, Option.bind_some, exponent_append closed]
      cases exponent? left with
      | none => rfl
      | some parts =>
          simp only [Option.map_some, Option.bind_some]
          cases (nearestFloat (natOfDigits (whole ++ fraction)) (parts.1 - fraction.length)).isFinite <;>
            rfl

theorem stays_whole_append (negative : Bool) (whole : List Nat) (cs : List Char) :
    staysWhole negative whole (cs ++ rest) = staysWhole negative whole cs := by
  rw [staysWhole, is_fraction_append closed]
  rfl

theorem number_append (negative : Bool) (cs : List Char) :
    number? negative (cs ++ rest) = (number? negative cs).map fun (j, left) => (j, left ++ rest) := by
  rw [number_eq, number_eq, whole_digits_append closed]
  cases wholeDigits? cs with
  | none => rfl
  | some parts =>
      obtain ⟨whole, left⟩ := parts
      simp only [Option.map_some, Option.bind_some, stays_whole_append closed, decimal_append closed]
      cases staysWhole negative whole left <;> rfl

end closed

theorem digit_value_char {d : Nat} (small : d < 10) : digitValue? d.digitChar = some d := by
  have each : ∀ d < 10, digitValue? (Nat.digitChar d) = some d := by decide
  exact each d small

section natural

variable (n : Nat)

def decimals : List Nat := (Nat.toDigits 10 n).filterMap digitValue?

theorem decimals_of_lt {n : Nat} (small : n < 10) : decimals n = [n] := by
  rw [decimals, Nat.toDigits_of_lt_base small, List.filterMap_cons, digit_value_char small]
  rfl

theorem decimals_append {m d : Nat} (positive : 0 < m) (small : d < 10) :
    decimals (10 * m + d) = decimals m ++ [d] := by
  rw [decimals, ← Nat.toDigits_append_toDigits (by omega) positive small, List.filterMap_append]
  exact congrArg (decimals m ++ ·) (decimals_of_lt small)

theorem nat_of_decimals : natOfDigits (decimals n) = n := by
  induction n using Nat.base_induction 10 (by omega) with
  | single d small => simp [decimals_of_lt small, natOfDigits]
  | digit m d small positive ih =>
      rw [natOfDigits] at ih ⊢
      rw [decimals_append positive small, List.foldl_append, ih]
      rfl

theorem decimals_head : ∃ first rest, decimals n = first :: rest ∧ (first = 0 → n = 0) := by
  induction n using Nat.base_induction 10 (by omega) with
  | single d small => exact ⟨d, [], decimals_of_lt small, id⟩
  | digit m d small positive ih =>
      obtain ⟨first, rest, digits, zero⟩ := ih
      refine ⟨first, rest ++ [d], ?_, fun leading => ?_⟩
      · rw [decimals_append positive small, digits]
        rfl
      · have := zero leading
        omega

theorem digit_bounds {c : Char} (written : c ∈ Nat.toDigits 10 n) : '0' ≤ c ∧ c ≤ '9' := by
  have digit : c.isDigit = true := Nat.isDigit_of_mem_toDigits (by omega) (by omega) written
  simpa [Char.isDigit, Char.le_def] using digit

theorem digit_of_nat_text {c : Char} (written : c ∈ Nat.toDigits 10 n) :
    (digitValue? c).isSome = true := by
  rw [digitValue?, if_pos (digit_bounds n written)]
  rfl

theorem whole_digits_nat : wholeDigits? (Nat.toDigits 10 n) = some (decimals n, []) := by
  have all : ∀ c ∈ Nat.toDigits 10 n, (digitValue? c).isSome = true := fun c => digit_of_nat_text n
  have digits : digitsOf (Nat.toDigits 10 n) = decimals n := by
    rw [digitsOf, List.takeWhile_eq_self_iff.mpr all]
    rfl
  have consumed : dropDigits (Nat.toDigits 10 n) = [] := List.dropWhile_eq_nil_iff.mpr all
  obtain ⟨first, rest, shape, zero⟩ := decimals_head n
  rw [wholeDigits?, digits, consumed]
  cases first with
  | succ digit =>
      rw [shape]
      cases rest <;> rfl
  | zero =>
      have none : n = 0 := zero rfl
      subst none
      rfl

theorem number_of_nat (inside : n < Nat.pow 2 64) :
    number? false (Nat.toDigits 10 n) = some (.int n, []) := by
  have whole : staysWhole false (decimals n) [] = true := by
    simpa [staysWhole, isFraction, nat_of_decimals] using inside
  rw [number_eq, whole_digits_nat, Option.bind_some]
  simp only [whole, nat_of_decimals]
  rfl

theorem number_of_negative (positive : 0 < n) (inside : n ≤ Nat.pow 2 63) :
    number? true (Nat.toDigits 10 n) = some (.int (-n), []) := by
  have whole : staysWhole true (decimals n) [] = true := by
    simpa [staysWhole, isFraction, nat_of_decimals] using ⟨positive, inside⟩
  rw [number_eq, whole_digits_nat, Option.bind_some]
  simp only [whole, nat_of_decimals]
  rfl

end natural

theorem number_starts {negative : Bool} {cs : List Char} {outcome : Json × List Char}
    (read : number? negative cs = some outcome) :
    ∃ c tail, cs = c :: tail ∧ (digitValue? c).isSome = true := by
  rw [number_eq] at read
  obtain ⟨parts, digits, -⟩ := Option.bind_eq_some_iff.mp read
  cases cs with
  | nil => cases digits
  | cons c tail =>
      refine ⟨c, tail, rfl, ?_⟩
      by_contra other
      have none : digitsOf (c :: tail) = [] := by
        rw [digitsOf, List.takeWhile_cons_of_neg (by simpa using other)]
        rfl
      rw [wholeDigits?, none] at digits
      cases digits

section left

variable {cs left : List Char}

theorem drop_digits_suffix (cs : List Char) : dropDigits cs <:+ cs := List.dropWhile_suffix _

theorem whole_digits_left {digits : List Nat} (read : wholeDigits? cs = some (digits, left)) :
    left <:+ cs := by
  suffices same : left = dropDigits cs from same ▸ drop_digits_suffix cs
  unfold wholeDigits? at read
  split at read <;> cases read <;> rfl

theorem fraction_left {digits : List Nat} (read : fraction? cs = some (digits, left)) :
    left <:+ cs := by
  unfold fraction? at read
  split at read
  · rename_i tail
    dsimp only at read
    split at read
    · cases read
    · cases read
      exact (drop_digits_suffix tail).trans (List.suffix_cons _ _)
  · cases read
    exact List.suffix_rfl

theorem exponent_sign_suffix (cs : List Char) : (exponentSign cs).2 <:+ cs := by
  unfold exponentSign
  split
  · exact List.suffix_cons _ _
  · exact List.suffix_cons _ _
  · exact List.suffix_rfl

theorem exponent_left {size : Int} (read : exponent? cs = some (size, left)) : left <:+ cs := by
  cases cs with
  | nil =>
      cases read
      exact List.suffix_rfl
  | cons c tail =>
      rw [exponent_eq] at read
      dsimp only at read
      split at read
      · split at read
        · cases read
        · cases read
          exact (drop_digits_suffix _).trans
            ((exponent_sign_suffix tail).trans (List.suffix_cons _ _))
      · cases read
        exact List.suffix_rfl

theorem number_left {negative : Bool} {j : Json} (read : number? negative cs = some (j, left)) :
    left <:+ cs := by
  rw [number_eq] at read
  obtain ⟨⟨whole, tail⟩, digits, read⟩ := Option.bind_eq_some_iff.mp read
  refine List.IsSuffix.trans ?_ (whole_digits_left digits)
  dsimp only at read
  split at read
  · cases read
    exact List.suffix_rfl
  · obtain ⟨⟨fraction, behind⟩, fractional, read⟩ := Option.bind_eq_some_iff.mp read
    obtain ⟨⟨exponent, last⟩, scaled, read⟩ := Option.bind_eq_some_iff.mp read
    dsimp only at read
    split at read
    · cases read
      exact (exponent_left scaled).trans (fraction_left fractional)
    · cases read

end left

end Reader

section blanks

open Reader

def blankFree (cs : List Char) : Bool := cs.all (!isBlank ·)

@[simp]
theorem blank_free_append (front back : List Char) :
    blankFree (front ++ back) = (blankFree front && blankFree back) := List.all_append

@[simp]
theorem blank_free_cons (c : Char) (cs : List Char) :
    blankFree (c :: cs) = (!isBlank c && blankFree cs) := rfl

theorem blank_free_iff {cs : List Char} :
    blankFree cs = true ↔ ∀ c ∈ cs, isBlank c = false := by
  simp [blankFree]

theorem blank_free_of_subset {part whole : List Char} (free : blankFree whole = true)
    (inside : part ⊆ whole) : blankFree part = true :=
  blank_free_iff.mpr fun c written => blank_free_iff.mp free c (inside written)

@[simp]
theorem blank_free_zeros (count : Nat) : blankFree (List.replicate count '0') = true :=
  blank_free_iff.mpr fun c written => by
    rw [List.eq_of_mem_replicate written]
    rfl

@[simp]
theorem blank_free_nat (n : Nat) : blankFree (Nat.toDigits 10 n) = true := by
  refine blank_free_iff.mpr fun c written => ?_
  have digit : c.isDigit = true := Nat.isDigit_of_mem_toDigits (by omega) (by omega) written
  by_contra blank
  simp only [isBlank, Bool.not_eq_false, Bool.or_eq_true, beq_iff_eq] at blank
  rcases blank with ((rfl | rfl) | rfl) | rfl <;> cases digit

theorem int_text_eq (i : Int) :
    (toString i).toList = if 0 ≤ i then Nat.toDigits 10 i.toNat else '-' :: Nat.toDigits 10 (-i).toNat := by
  rw [Int.toString_eq_repr, Int.repr_eq_if]
  split <;> simp

@[simp]
theorem blank_free_int (i : Int) : blankFree (toString i).toList = true := by
  rw [int_text_eq]
  split
  · exact blank_free_nat _
  · exact blank_free_nat _

theorem blank_free_point (n places : Nat) :
    blankFree (Numeral.withPoint n places).toList = true := by
  have padded : blankFree (Numeral.padLeft (places + 1) (Numeral.digitText n)) = true := by
    simp [Numeral.padLeft, Numeral.digitText]
  have front := blank_free_of_subset padded (List.take_subset
    ((Numeral.padLeft (places + 1) (Numeral.digitText n)).length - places) _)
  have back := blank_free_of_subset padded (List.drop_subset
    ((Numeral.padLeft (places + 1) (Numeral.digitText n)).length - places) _)
  unfold Numeral.withPoint
  dsimp only
  split
  · simpa using padded
  · simp [front, back, isBlank]

theorem blank_free_positional (d : Numeral) : blankFree d.positional.toList = true := by
  unfold Numeral.positional
  split
  · simp [Numeral.digitText]
  · exact blank_free_point _ _

theorem blank_free_numeral (d : Numeral) : blankFree (numeralText d).toList = true := by
  have digits : blankFree (Numeral.digitText d.digits) = true := blank_free_nat d.digits
  have first := blank_free_of_subset digits (List.take_subset 1 _)
  have later := blank_free_of_subset digits (List.drop_subset 1 _)
  unfold numeralText
  dsimp only
  split
  · rfl
  · split
    · rw [String.toList_append, blank_free_append, blank_free_positional]
      rfl
    · split
      · exact blank_free_positional d
      · have fraction : blankFree (if (Numeral.digitText d.digits).length = 1 then []
            else '.' :: (Numeral.digitText d.digits).drop 1) = true := by
          split
          · rfl
          · exact later
        have sign (positive : Prop) [Decidable positive] :
            blankFree (if positive then "+" else "").toList = true := by
          split <;> rfl
        simp only [String.toList_append, String.toList_ofList, blank_free_append, first, fraction,
          sign, blank_free_int]
        rfl

theorem blank_free_float (x : Float) : blankFree (floatText x).toList = true := by
  unfold floatText
  split
  · rw [String.toList_append, blank_free_append, blank_free_numeral]
    cases signBit x <;> rfl
  · rfl

end blanks

end EconomicImpact.Json
