import Mathlib
import EconomicImpact.Proofs.Scalar.Nearest

set_option autoImplicit false

namespace EconomicImpact.Double

open Float.Model (Format UnpackedFloat totalExponent)
open Float.Model.UnpackedFloat
  (Sign pack unpack packComponents unpackSign unpackExponent unpackMantissa ExtendedMantissa Accuracy
    shiftToTargetExponent shiftToExponent roundWithAccuracy decreaseExponent)

-- A mantissa and an exponent in the form that a double has them.
structure Canonical (m : Nat) (e : Int) : Prop where
  short : m < 2 ^ 53
  least : -1074 ≤ e
  full : 2 ^ 52 ≤ m ∨ e = -1074

-- A magnitude in units of the smallest positive double.
def units (m : Nat) (e : Int) : Nat := m * 2 ^ (e + 1074).toNat

section order

variable {m m' : Nat} {e e' : Int}

theorem units_pos (positive : 0 < m) : 0 < units m e := Nat.mul_pos positive (Nat.two_pow_pos _)

theorem units_lt_of_exponent (left : Canonical m e) (right : Canonical m' e') (less : e < e') :
    units m e < units m' e' := by
  have least := left.least
  have places : (e + 1074).toNat + 1 ≤ (e' + 1074).toNat := by omega
  have full : 2 ^ 52 ≤ m' := right.full.resolve_right (by omega)
  calc units m e
      < 2 ^ 53 * 2 ^ (e + 1074).toNat := Nat.mul_lt_mul_of_pos_right left.short (Nat.two_pow_pos _)
    _ = 2 ^ 52 * 2 ^ ((e + 1074).toNat + 1) := by ring
    _ ≤ 2 ^ 52 * 2 ^ (e' + 1074).toNat :=
        Nat.mul_le_mul_left _ (Nat.pow_le_pow_right Nat.two_pos places)
    _ ≤ units m' e' := Nat.mul_le_mul_right _ full

theorem compare_units (left : Canonical m e) (right : Canonical m' e') :
    (compare e e').then (compare m m') = compare (units m e) (units m' e') := by
  rcases lt_trichotomy e e' with less | rfl | more
  · rw [compare_lt_iff_lt.mpr less, compare_lt_iff_lt.mpr (units_lt_of_exponent left right less)]
    rfl
  · rw [compare_eq_iff_eq.mpr rfl]
    change compare m m' = compare (m * _) (m' * _)
    have positive := Nat.two_pow_pos (e + 1074).toNat
    rcases lt_trichotomy m m' with less | rfl | more
    · rw [compare_lt_iff_lt.mpr less,
        compare_lt_iff_lt.mpr (Nat.mul_lt_mul_of_pos_right less positive)]
    · rw [compare_eq_iff_eq.mpr rfl, compare_eq_iff_eq.mpr rfl]
    · rw [compare_gt_iff_gt.mpr more,
        compare_gt_iff_gt.mpr (Nat.mul_lt_mul_of_pos_right more positive)]
  · rw [compare_gt_iff_gt.mpr more, compare_gt_iff_gt.mpr (units_lt_of_exponent right left more)]
    rfl

theorem units_injective (left : Canonical m e) (right : Canonical m' e')
    (same : units m e = units m' e') : m = m' ∧ e = e' := by
  have equal := (compare_units left right).trans (compare_eq_iff_eq.mpr same)
  obtain ⟨exponents, mantissas⟩ := Ordering.then_eq_eq.mp equal
  exact ⟨compare_eq_iff_eq.mp mantissas, compare_eq_iff_eq.mp exponents⟩

end order

-- The values that a double can have.
def Representable : UnpackedFloat → Prop
  | .finite _ m e _ => Canonical m e ∧ e ≤ 971
  | _ => True

section fields

variable (bits : BitVec Format.binary64.numBits)

theorem mantissa_field : (unpackMantissa bits).toNat = bits.toNat % 2 ^ 52 := by
  simp [unpackMantissa, BitVec.extractLsb]

theorem exponent_field : (unpackExponent bits).toNat = bits.toNat / 2 ^ 52 % 2 ^ 11 := by
  simp [unpackExponent, BitVec.extractLsb, Nat.shiftRight_eq_div_pow]

theorem sign_field : (unpackSign bits).toNat = bits.toNat / 2 ^ 63 := by
  have bound : bits.toNat < 2 ^ 64 := bits.isLt
  simp [unpackSign, BitVec.extractLsb, Nat.shiftRight_eq_div_pow]
  omega

theorem append_fields {p q : Nat} (high : BitVec p) (low : BitVec q) :
    (high ++ low).toNat = high.toNat * 2 ^ q + low.toNat := by
  rw [BitVec.toNat_append, ← Nat.shiftLeft_add_eq_or_of_lt low.isLt, Nat.shiftLeft_eq]

theorem components_fields (sign : Sign) (exponent : BitVec 11) (mantissa : BitVec 52) :
    (packComponents Format.binary64 sign exponent mantissa).toNat =
      (sign.toBitVec.toNat * 2 ^ 11 + exponent.toNat) * 2 ^ 52 + mantissa.toNat := by
  unfold packComponents
  rw [append_fields, append_fields]

theorem sign_of_sign_bit (sign : BitVec 1) : (Sign.ofBitVec sign).toBitVec = sign := by
  revert sign
  decide

theorem components_of_fields :
    packComponents Format.binary64 (.ofBitVec (unpackSign bits)) (unpackExponent bits)
      (unpackMantissa bits) = bits := by
  apply BitVec.eq_of_toNat_eq
  rw [components_fields, sign_of_sign_bit, mantissa_field, exponent_field, sign_field]
  omega

end fields

theorem unpack_sign_components (sign : Sign) (exponent : BitVec 11) (mantissa : BitVec 52) :
    unpackSign (packComponents Format.binary64 sign exponent mantissa) = sign.toBitVec := by
  have high := exponent.isLt
  have low := mantissa.isLt
  apply BitVec.eq_of_toNat_eq
  rw [sign_field, components_fields]
  omega

@[simp] theorem sign_components (sign : Sign) (exponent : BitVec 11) (mantissa : BitVec 52) :
    Sign.ofBitVec (unpackSign (packComponents Format.binary64 sign exponent mantissa)) = sign := by
  rw [unpack_sign_components]
  cases sign <;> rfl

theorem unpack_representable (bits : BitVec Format.binary64.numBits) :
    Representable (unpack Format.binary64 bits) := by
  have short : (unpackMantissa bits).toNat < 2 ^ 52 := (unpackMantissa bits).isLt
  have bias : (Format.binary64.exponentBias : Int) +
    Format.binary64.mantissaBitsWithoutImplicit = 1075 := rfl
  have greatest : (unpackExponent bits).toNat < 2 ^ 11 := (unpackExponent bits).isLt
  dsimp only [unpack]
  rw [bias]
  split_ifs with special _ zero
  · trivial
  · trivial
  · trivial
  · refine ⟨⟨short.trans (by decide), ?_, .inr ?_⟩, ?_⟩ <;> rw [zero] <;> decide
  · have below : (unpackExponent bits).toNat ≠ 2047 := fun same =>
      special (BitVec.eq_of_toNat_eq same)
    have above : (unpackExponent bits).toNat ≠ 0 := fun same =>
      zero (BitVec.eq_of_toNat_eq same)
    have mantissa : (1#1 ++ unpackMantissa bits).toNat = 2 ^ 52 + (unpackMantissa bits).toNat :=
      append_fields _ _
    refine ⟨⟨?_, ?_, .inl ?_⟩, ?_⟩ <;> omega

theorem log2_of_full {m : Nat} (full : 2 ^ 52 ≤ m) (short : m < 2 ^ 53) : m.log2 = 52 :=
  (Nat.log2_eq_iff (by omega)).mpr ⟨full, short⟩

theorem bias_eq (e : Int) : e + (Format.binary64.exponentBias : Int) +
    Format.binary64.mantissaBitsWithoutImplicit = e + 1075 := by
  change e + 1023 + 52 = _
  omega

theorem pack_normal (sign : Sign) {m : Nat} {e : Int} (positive : 0 < m) (short : m < 2 ^ 53)
    (fits : e ≤ 971) (full : 2 ^ 52 ≤ m) :
    pack Format.binary64 (.finite sign m e positive) =
      packComponents Format.binary64 sign (BitVec.ofNat 11 (e + 1075).toNat) (BitVec.ofNat 52 m) := by
  have length : m.log2 + 1 = Format.binary64.mantissaBits := by
    rw [log2_of_full full short]
    rfl
  dsimp only [pack]
  rw [bias_eq, if_neg (show ¬2 ^ 11 ≤ (e + 1075).toNat + 1 by omega), if_pos length]

theorem pack_subnormal (sign : Sign) {m : Nat} (positive : 0 < m) (short : m < 2 ^ 52) :
    pack Format.binary64 (.finite sign m (-1074) positive) =
      packComponents Format.binary64 sign 0#11 (BitVec.ofNat 52 m) := by
  have length : m.log2 + 1 ≠ Format.binary64.mantissaBits := by
    have shorter := (Nat.log2_lt positive.ne').mpr short
    change m.log2 + 1 ≠ 53
    omega
  dsimp only [pack]
  rw [bias_eq, if_neg (by decide), if_neg length]

theorem stored_exponent {e : Int} (fits : e ≤ 971) :
    (BitVec.ofNat 11 (e + 1075).toNat).toNat = (e + 1075).toNat :=
  Nat.mod_eq_of_lt (by omega)

theorem unpack_pack_normal (sign : Sign) {m : Nat} {e : Int} (positive : 0 < m)
    (canonical : Canonical m e) (fits : e ≤ 971) (full : 2 ^ 52 ≤ m) :
    unpack Format.binary64 (pack Format.binary64 (.finite sign m e positive)) =
      .finite sign m e positive := by
  have short := canonical.short
  have least := canonical.least
  have exponent := stored_exponent fits
  have other (special : BitVec 11) (apart : special.toNat ≠ (e + 1075).toNat) :
      BitVec.ofNat 11 (e + 1075).toNat ≠ special := fun same =>
    apart (exponent ▸ congrArg BitVec.toNat same).symm
  have mantissa : (1#1 ++ BitVec.ofNat 52 m).toNat = m := by
    rw [append_fields, BitVec.toNat_ofNat]
    change 1 * 2 ^ 52 + m % 2 ^ 52 = m
    omega
  rw [pack_normal sign positive short fits full]
  dsimp only [unpack]
  simp only [Float.Model.UnpackedFloat.unpackMantissa_packComponents,
    Float.Model.UnpackedFloat.unpackExponent_packComponents, sign_components]
  rw [if_neg (other (-1#11) (show 2047 ≠ _ by omega)),
    if_neg (other 0#11 (show 0 ≠ _ by omega)), UnpackedFloat.finite.injEq]
  refine ⟨rfl, mantissa, ?_⟩
  rw [exponent]
  change _ - (1023 + 52 : Int) = e
  omega

theorem unpack_pack_subnormal (sign : Sign) {m : Nat} (positive : 0 < m) (short : m < 2 ^ 52) :
    unpack Format.binary64 (pack Format.binary64 (.finite sign m (-1074) positive)) =
      .finite sign m (-1074) positive := by
  have mantissa : (BitVec.ofNat 52 m).toNat = m := Nat.mod_eq_of_lt short
  have nonzero : BitVec.ofNat 52 m ≠ 0#52 := fun same => by
    have number := congrArg BitVec.toNat same
    rw [mantissa] at number
    exact positive.ne' number
  rw [pack_subnormal sign positive short]
  dsimp only [unpack]
  simp only [Float.Model.UnpackedFloat.unpackMantissa_packComponents,
    Float.Model.UnpackedFloat.unpackExponent_packComponents, sign_components]
  rw [if_neg (by decide), if_pos trivial, dif_neg nonzero, UnpackedFloat.finite.injEq]
  exact ⟨rfl, mantissa, rfl⟩

-- What a value becomes where it is kept as a double.
def stored (u : UnpackedFloat) : UnpackedFloat := unpack Format.binary64 (pack Format.binary64 u)

theorem stored_representable {u : UnpackedFloat} (representable : Representable u) :
    stored u = u := by
  cases u with
  | notANumber => rfl
  | infinity s => cases s <;> rfl
  | zero s => cases s <;> rfl
  | finite s m e positive =>
      obtain ⟨canonical, fits⟩ := representable
      by_cases full : 2 ^ 52 ≤ m
      · exact unpack_pack_normal s positive canonical fits full
      · obtain rfl := canonical.full.resolve_left full
        exact unpack_pack_subnormal s positive (not_le.mp full)

theorem stored_beyond (sign : Sign) {m : Nat} {e : Int} (positive : 0 < m) (beyond : 971 < e) :
    stored (.finite sign m e positive) = .infinity sign := by
  dsimp only [stored, pack]
  rw [bias_eq, if_pos (show 2 ^ 11 ≤ (e + 1075).toNat + 1 by omega)]
  exact stored_representable (u := .infinity sign) trivial

theorem pack_unpack {bits : BitVec Format.binary64.numBits} (valid : Format.binary64.Valid bits) :
    pack Format.binary64 (unpack Format.binary64 bits) = bits := by
  have fields := components_of_fields bits
  have short : (unpackMantissa bits).toNat < 2 ^ 52 := (unpackMantissa bits).isLt
  have greatest : (unpackExponent bits).toNat < 2 ^ 11 := (unpackExponent bits).isLt
  dsimp only [unpack]
  split_ifs with special whole zero whole
  · rwa [special, whole] at fields
  · exact (valid.eq_packedNaN special whole).symm
  · rwa [zero, whole] at fields
  · have positive : 0 < (unpackMantissa bits).toNat :=
      Nat.pos_of_ne_zero fun none => whole (BitVec.eq_of_toNat_eq none)
    rw [zero] at fields ⊢
    change pack _ (.finite _ _ (-1074) positive) = _
    refine (pack_subnormal _ positive short).trans ?_
    rwa [BitVec.ofNat_toNat, BitVec.setWidth_eq]
  · have below : (unpackExponent bits).toNat ≠ 2047 := fun same =>
      special (BitVec.eq_of_toNat_eq same)
    have mantissa : (1#1 ++ unpackMantissa bits).toNat = 2 ^ 52 + (unpackMantissa bits).toNat :=
      append_fields _ _
    have exponent : ((unpackExponent bits).toNat - (1023 + 52) + 1075 : Int).toNat =
        (unpackExponent bits).toNat := by omega
    have stored : BitVec.ofNat 52 (2 ^ 52 + (unpackMantissa bits).toNat) = unpackMantissa bits := by
      apply BitVec.eq_of_toNat_eq
      rw [BitVec.toNat_ofNat, Nat.add_mod_left, Nat.mod_eq_of_lt short]
    have fits : ((unpackExponent bits).toNat - (1023 + 52) : Int) ≤ 971 := by omega
    refine (pack_normal _ _ (by omega) fits (by omega)).trans ?_
    rw [mantissa, exponent, stored, BitVec.ofNat_toNat, BitVec.setWidth_eq]
    exact fields

theorem unpack_injective {a b : Float.Model} (same : a.unpack = b.unpack) : a = b := by
  have bits := (pack_unpack a.valid).symm.trans
    ((congrArg (pack Format.binary64) same).trans (pack_unpack b.valid))
  cases a
  cases b
  cases UInt64.toBitVec_inj.mp bits
  rfl

theorem shift_eq (m places : Nat) :
    ExtendedMantissa.ofMantissaAndAccuracy m .exact >>> (places + 1) =
      ⟨m / 2 ^ (places + 1), m / 2 ^ places % 2 != 0, m % 2 ^ places != 0⟩ := by
  induction places with
  | zero => simp [HShiftRight.hShiftRight, Nat.repeat, ExtendedMantissa.shiftRightOne,
      ExtendedMantissa.ofMantissaAndAccuracy, Nat.mod_one]
  | succ places ih =>
      change ExtendedMantissa.shiftRightOne
        (ExtendedMantissa.ofMantissaAndAccuracy m .exact >>> (places + 1)) = _
      rw [ih, ExtendedMantissa.shiftRightOne]
      dsimp only
      rw [Nat.div_div_eq_div_mul, ← pow_succ]
      have digits : m % 2 ^ (places + 1) = m % 2 ^ places + 2 ^ places * (m / 2 ^ places % 2) :=
        Nat.mod_pow_succ
      congr 1
      rw [digits, Bool.eq_iff_iff]
      simp
      tauto

theorem rounded_shift (m places : Nat) :
    (ExtendedMantissa.ofMantissaAndAccuracy m .exact >>> places).roundedMantissa =
      nearest places m := by
  cases places with
  | zero => rfl
  | succ places =>
      rw [shift_eq, nearest, halve, pow_succ, ← Nat.div_div_eq_div_mul]
      generalize m / 2 ^ places = halves
      rcases Nat.mod_two_eq_zero_or_one halves with even | odd
      · cases m % 2 ^ places != 0 <;> simp [even, ExtendedMantissa.roundedMantissa,
          ExtendedMantissa.accuracy, Accuracy.roundToNearestEven]
      · cases m % 2 ^ places != 0 <;> simp [odd, ExtendedMantissa.roundedMantissa,
          ExtendedMantissa.accuracy, Accuracy.roundToNearestEven]

theorem log2_mul_two_pow {m : Nat} (positive : 0 < m) (k : Nat) :
    (m * 2 ^ k).log2 = m.log2 + k := by
  have nonzero : m * 2 ^ k ≠ 0 := (Nat.mul_pos positive (Nat.two_pow_pos k)).ne'
  refine (Nat.log2_eq_iff nonzero).mpr ⟨?_, ?_⟩
  · rw [pow_add]
    exact Nat.mul_le_mul_right _ (Nat.log2_self_le positive.ne')
  · rw [add_right_comm, pow_add]
    exact Nat.mul_lt_mul_of_pos_right Nat.lt_log2_self (Nat.two_pow_pos k)

-- The exponent that a magnitude is shifted to leaves it 53 places, or fewer down to the smallest double.
theorem target_exponent {m : Nat} {e : Int} (positive : 0 < m) (least : -1074 ≤ e) :
    Format.binary64.targetExponent (totalExponent m e) = excess (units m e) - 1074 := by
  have length : (units m e).log2 = m.log2 + (e + 1074).toNat := log2_mul_two_pow positive _
  unfold excess
  rw [length]
  change max ((m.log2 + 1 + e : Int) - (1 + 52 : Nat)) (3 - 2 ^ 10 - (1 + 52 : Nat)) = _
  norm_num
  omega

theorem units_shifted (m k : Nat) {e : Int} (least : -1074 ≤ e - k) :
    units (m <<< k) (e - k) = units m e := by
  have places : (e + 1074).toNat = k + (e - k + 1074).toNat := by omega
  rw [units, units, Nat.shiftLeft_eq, places, pow_add, mul_assoc]

-- A magnitude that need not be shifted to the left is rounded to its first 53 places.
theorem first_shift {m : Nat} {e : Int} (positive : 0 < m) (least : -1074 ≤ e)
    (low : e ≤ excess (units m e) - 1074) :
    ∃ mantissa : ExtendedMantissa, shiftToTargetExponent Format.binary64 m e .exact =
        (mantissa, (excess (units m e) : Int) - 1074) ∧
      mantissa.roundedMantissa = nearest (excess (units m e)) (units m e) := by
  refine ⟨_, Prod.ext rfl ?_, ?_⟩
  · rw [shiftToTargetExponent, target_exponent positive least, shiftToExponent]
    dsimp only
    omega
  · have places : excess (units m e) =
        (excess (units m e) - 1074 - e : Int).toNat + (e + 1074).toNat := by omega
    rw [shiftToTargetExponent, target_exponent positive least, shiftToExponent, rounded_shift]
    refine (nearest_scaled _ (e + 1074).toNat m).symm.trans ?_
    rw [← places]
    rfl

-- Rounding may fill 54 places, and then one more shift leaves a power of two.
theorem second_shift {m : Nat} (places : Nat) (positive : 0 < m) (short : m ≤ 2 ^ 53)
    (full : 2 ^ 52 ≤ m ∨ places = 0) :
    ∃ mantissa e, shiftToTargetExponent Format.binary64 m (places - 1074) .exact = (mantissa, e) ∧
      0 < mantissa.mantissa ∧ Canonical mantissa.mantissa e ∧
      units mantissa.mantissa e = m * 2 ^ places := by
  have least : (-1074 : Int) ≤ places - 1074 := by omega
  have scaled : units m (places - 1074) = m * 2 ^ places := by
    rw [units, Int.sub_add_cancel, Int.toNat_natCast]
  rw [shiftToTargetExponent, target_exponent positive least, scaled, shiftToExponent]
  rcases short.lt_or_eq with fits | rfl
  · have none : ((excess (m * 2 ^ places) - 1074 : Int) - (places - 1074)).toNat = 0 := by
      have few := excess_le places fits
      omega
    rw [none]
    refine ⟨_, _, rfl, positive, ⟨fits, by omega, ?_⟩, ?_⟩
    · exact full.imp id fun none => by simp [none]
    · exact (congrArg (units m) (add_zero _)).trans scaled
  · have one : ((excess (2 ^ 53 * 2 ^ places) - 1074 : Int) - (places - 1074)).toNat = 1 := by
      rw [← pow_add, excess, Nat.log2_two_pow]
      omega
    rw [one]
    refine ⟨_, _, rfl, ?_, ⟨?_, by omega, .inl ?_⟩, ?_⟩
    · decide
    · decide
    · decide
    · have exponent : (places - 1074 + (1 : Nat) + 1074 : Int).toNat = places + 1 := by omega
      change 2 ^ 53 / 2 * 2 ^ (places - 1074 + (1 : Nat) + 1074 : Int).toNat = _
      rw [exponent, pow_succ]
      norm_num
      ring

theorem nearest_pos {x : Nat} (positive : 0 < x) : 0 < nearest (excess x) x := by
  rcases Nat.eq_zero_or_pos (excess x) with short | long
  · rwa [short]
  · exact (by decide : 0 < 2 ^ 52).trans_le (le_nearest long)

theorem round_spec (sign : Sign) {m : Nat} {e : Int} (positive : 0 < m) (least : -1074 ≤ e) :
    ∃ m' e' positive', UnpackedFloat.round Format.binary64 sign m e =
      .finite sign m' e' positive' ∧ Canonical m' e' ∧ units m' e' = rounded (units m e) := by
  have target := target_exponent positive least
  obtain ⟨k, shift⟩ : ∃ k, (e - (excess (units m e) - 1074)).toNat = k := ⟨_, rfl⟩
  have moved := units_shifted m k (e := e) (by omega)
  obtain ⟨first, firstShift, nearestPlaces⟩ := first_shift (m := m <<< k) (e := e - k)
    (by rw [Nat.shiftLeft_eq]; positivity) (by omega) (by rw [moved]; omega)
  rw [moved] at firstShift nearestPlaces
  have above := units_pos (e := e) positive
  obtain ⟨second, e', secondShift, nonzero, canonical, same⟩ := second_shift (excess (units m e))
    (nearest_pos above) (nearest_le _)
    ((Nat.eq_zero_or_pos _).elim .inr fun long => .inl (le_nearest long))
  refine ⟨second.mantissa, e', nonzero, ?_, canonical, same⟩
  rw [UnpackedFloat.round]
  dsimp only
  rw [target, decreaseExponent, shift, roundWithAccuracy]
  dsimp only
  rw [firstShift]
  dsimp only
  rw [nearestPlaces, secondShift]
  exact dif_neg nonzero.ne'

end EconomicImpact.Double
