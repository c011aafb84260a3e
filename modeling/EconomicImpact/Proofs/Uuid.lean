import Mathlib
import EconomicImpact.Uuid

set_option autoImplicit false

namespace EconomicImpact.Uuid

theorem hex_value_hex_digit {n : Nat} (small : n < 16) : hexValue? (hexDigit n) = some n := by
  have each : ∀ n < 16, hexValue? (hexDigit n) = some n := by decide
  exact each n small

def hexDigits (bytes : List UInt8) : List Char :=
  bytes.flatMap fun b => [hexDigit (b.toNat / 16), hexDigit (b.toNat % 16)]

theorem hex_digits_values (bytes : List UInt8) :
    (hexDigits bytes).mapM hexValue? =
      some (bytes.flatMap fun b => [b.toNat / 16, b.toNat % 16]) := by
  induction bytes with
  | nil => rfl
  | cons b rest ih =>
      have high := hex_value_hex_digit (n := b.toNat / 16) (by have := b.toNat_lt; omega)
      have low := hex_value_hex_digit (n := b.toNat % 16) (by omega)
      rw [hexDigits] at ih ⊢
      simp [high, low, ih]

theorem pair_bytes_digits (bytes : List UInt8) :
    pairBytes (bytes.flatMap fun b => [b.toNat / 16, b.toNat % 16]) = bytes := by
  induction bytes with
  | nil => rfl
  | cons b rest ih =>
      have whole : 16 * (b.toNat / 16) + b.toNat % 16 = b.toNat := Nat.div_add_mod _ _
      simp [pairBytes, ih, whole]

theorem hex_text_injective : Function.Injective hexText := by
  intro a b same
  have digits : hexDigits a = hexDigits b := String.ofList_injective same
  have values := (hex_digits_values a).symm.trans ((congrArg (·.mapM hexValue?) digits).trans
    (hex_digits_values b))
  have pairs := congrArg pairBytes (Option.some.inj values)
  rwa [pair_bytes_digits, pair_bytes_digits] at pairs

theorem of_hex_digits (id : Uuid) : ofHex? (hexDigits id.bytes.toList) = some id := by
  have size : (id.bytes.toList.flatMap fun b => [b.toNat / 16, b.toNat % 16]).length = 32 := by
    simp
  rw [ofHex?, hex_digits_values, Option.bind_some, if_pos size, pair_bytes_digits, ofBytes?,
    dif_pos (by simp)]
  exact congrArg (fun bytes => some (Uuid.mk bytes)) (Vector.toArray_inj.mp rfl)

theorem hex_digits_length (bytes : List UInt8) : (hexDigits bytes).length = 2 * bytes.length := by
  induction bytes with
  | nil => rfl
  | cons b rest ih =>
      rw [hexDigits] at ih ⊢
      simp [ih]
      omega

theorem of_groups_hyphened {a b c d e : List Char} (first : a.length = 8) (second : b.length = 4)
    (third : c.length = 4) (fourth : d.length = 4) (last : e.length = 12) :
    ofGroups? (a ++ '-' :: (b ++ '-' :: (c ++ '-' :: (d ++ '-' :: e)))) =
      ofHex? (a ++ b ++ c ++ d ++ e) := by
  have beyond (cs : List Char) (count : Nat) (inside : cs.length ≤ count) : cs.drop count = [] :=
    List.drop_eq_nil_of_le inside
  unfold ofGroups?
  simp [first, second, third, fourth, last, List.drop_append, List.getElem?_append, beyond]

def group (id : Uuid) (start count : Nat) : List Char :=
  hexDigits ((id.bytes.toList.drop start).take count)

theorem text_eq (id : Uuid) :
    id.toText.toList = id.group 0 4 ++ '-' :: (id.group 4 2 ++ '-' :: (id.group 6 2 ++
      '-' :: (id.group 8 2 ++ '-' :: id.group 10 6))) := by
  simp [toText, hexText, group, hexDigits]

theorem groups_eq (id : Uuid) :
    id.group 0 4 ++ id.group 4 2 ++ id.group 6 2 ++ id.group 8 2 ++ id.group 10 6 =
      hexDigits id.bytes.toList := by
  have parts (bytes : List UInt8) (size : bytes.length = 16) :
      bytes.take 4 ++ (bytes.drop 4).take 2 ++ (bytes.drop 6).take 2 ++ (bytes.drop 8).take 2 ++
        (bytes.drop 10).take 6 = bytes := by
    have last : (bytes.drop 10).take 6 = bytes.drop 10 := List.take_of_length_le (by simp [size])
    have join {start next : Nat} (count : Nat) (same : start + count = next) :
        (bytes.drop start).take count ++ bytes.drop next = bytes.drop start := by
      rw [← same, ← List.drop_drop]
      exact List.take_append_drop count _
    rw [last]
    simp only [List.append_assoc]
    rw [join 2 rfl, join 2 rfl, join 2 rfl, List.take_append_drop]
  have whole := congrArg hexDigits (parts id.bytes.toList (by simp))
  simpa [hexDigits, group] using whole

theorem of_text (id : Uuid) : ofText? id.toText = some id := by
  have length (start count : Nat) (inside : start + count ≤ 16) :
      (id.group start count).length = 2 * count := by
    rw [group, hex_digits_length]
    simp
    omega
  have whole := (of_groups_hyphened (length 0 4 (by omega)) (length 4 2 (by omega))
    (length 6 2 (by omega)) (length 8 2 (by omega)) (length 10 6 (by omega))).trans
      ((congrArg ofHex? id.groups_eq).trans id.of_hex_digits)
  rw [← text_eq] at whole
  have size : id.toText.toList.length = 36 := by
    simp [text_eq, length]
  unfold ofText?
  simp only [size]
  exact whole

end EconomicImpact.Uuid
