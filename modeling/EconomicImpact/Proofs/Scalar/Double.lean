import EconomicImpact.Proofs.Scalar.Binary64
import EconomicImpact.Proofs.Scalar.Extended

set_option autoImplicit false

namespace EconomicImpact.Double

open Float.Model (Format UnpackedFloat)
open Float.Model.UnpackedFloat (Sign pack)
open Extended

-- What a double stands for, in units of the smallest positive one.
def reading : UnpackedFloat → Extended ℚ
  | .notANumber => undefined
  | .infinity .negative => infinite true
  | .infinity .positive => infinite false
  | .zero _ => number 0
  | .finite s m e _ => number (s.apply (units m e) : Int)

theorem compare_reading {u v : UnpackedFloat} (left : Representable u) (right : Representable v) :
    (u.le v = true ↔ reading u ≤ reading v) ∧ (u.lt v = true ↔ reading u < reading v) := by
  unfold UnpackedFloat.le UnpackedFloat.lt
  cases u with
  | notANumber => simp [UnpackedFloat.compare, reading]
  | infinity s =>
      cases s <;> rcases v with (_ | _) | _ | _ | ⟨_ | _, m', e', positive'⟩ <;>
        simp [UnpackedFloat.compare, reading] <;> decide
  | zero s =>
      rcases v with (_ | _) | _ | _ | ⟨_ | _, m', e', positive'⟩ <;>
        simp [UnpackedFloat.compare, reading, Sign.apply]
      all_goals have := units_pos (e := e') positive'
      all_goals omega
  | finite s m e positive =>
      have above := units_pos (e := e) positive
      have amount : (0 : ℚ) < units m e := by exact_mod_cast above
      rcases v with (_ | _) | _ | _ | ⟨s', m', e', positive'⟩
      · cases s <;> simp [UnpackedFloat.compare, reading]
      · cases s <;> simp [UnpackedFloat.compare, reading]
      · cases s <;> simp [UnpackedFloat.compare, reading]
      · cases s <;> simp [UnpackedFloat.compare, reading, Sign.apply] <;> omega
      · have amount' : (0 : ℚ) < units m' e' := by exact_mod_cast units_pos (e := e') positive'
        have ordered := compare_units left.1 right.1
        cases s <;> cases s' <;> simp [UnpackedFloat.compare, reading, ordered, Sign.apply]
        · exact ⟨Nat.isGE_compare, Nat.compare_eq_gt⟩
        · exact ⟨by linarith, by linarith⟩
        · exact ⟨by linarith, by linarith⟩
        · exact ⟨Nat.isLE_compare, Nat.compare_eq_lt⟩

-- The magnitudes from here on are those that no double has.
def limit : Nat := units (2 ^ 53) 971

theorem units_lt_limit {m : Nat} {e : Int} (canonical : Canonical m e) (fits : e ≤ 971) :
    units m e < limit := by
  have least := canonical.least
  calc units m e
      < 2 ^ 53 * 2 ^ (e + 1074).toNat :=
        Nat.mul_lt_mul_of_pos_right canonical.short (Nat.two_pow_pos _)
    _ ≤ units (2 ^ 53) 971 :=
        Nat.mul_le_mul_left _ (Nat.pow_le_pow_right Nat.two_pos (by omega))

theorem limit_le_units {m : Nat} {e : Int} (canonical : Canonical m e) (beyond : 971 < e) :
    limit ≤ units m e := by
  calc units (2 ^ 53) 971
      = 2 ^ 52 * 2 ^ ((971 + 1074 : Int).toNat + 1) := by
        rw [units, pow_succ, pow_succ]
        ring
    _ ≤ 2 ^ 52 * 2 ^ (e + 1074).toNat :=
        Nat.mul_le_mul_left _ (Nat.pow_le_pow_right Nat.two_pos (by omega))
    _ ≤ units m e := Nat.mul_le_mul_right _ (canonical.full.resolve_right (by omega))

-- A whole number of units, or the infinity on its side where no double is as great.
def carried (x : Int) : Extended ℚ :=
  if (limit : Int) ≤ x then infinite false else if x ≤ -(limit : Int) then infinite true
  else number (x : ℚ)

theorem limit_pos : (0 : Int) < limit :=
  Int.natCast_pos.mpr (units_pos (Nat.two_pow_pos 53))

theorem carried_mono {x y : Int} (le : x ≤ y) : carried x ≤ carried y := by
  have positive := limit_pos
  unfold carried
  split_ifs <;> first | omega | simp
  exact le

theorem carried_within {x : Int} (above : -(limit : Int) < x) (below : x < limit) :
    carried x = number (x : ℚ) := by
  rw [carried, if_neg (not_le.mpr below), if_neg (not_le.mpr above)]

theorem carried_le_infinite (x : Int) : carried x ≤ infinite false := by
  unfold carried
  split_ifs <;> simp

theorem infinite_le_carried (x : Int) : infinite true ≤ carried x := by
  unfold carried
  split_ifs <;> simp

theorem carried_ne_undefined (x : Int) : carried x ≠ undefined := by
  unfold carried
  split_ifs <;> simp

-- The nearest whole number of 53 places.
def roundInt : Int → Int
  | .ofNat n => rounded n
  | .negSucc n => -(rounded (n + 1) : Int)

theorem round_int_apply (s : Sign) (n : Nat) : roundInt (s.apply n) = s.apply (rounded n) := by
  cases s with
  | positive => rfl
  | negative =>
      cases n with
      | zero => rfl
      | succ n => rfl

theorem round_int_mono {x y : Int} (le : x ≤ y) : roundInt x ≤ roundInt y := by
  rcases x with m | m <;> rcases y with n | n
  · exact Int.ofNat_le.mpr (rounded_mono (Int.ofNat_le.mp le))
  · exact absurd le (Int.negSucc_lt_zero n |>.trans_le (Int.natCast_nonneg m)).not_ge
  · exact (neg_nonpos.mpr (Int.natCast_nonneg _)).trans (Int.natCast_nonneg _)
  · refine neg_le_neg (Int.ofNat_le.mpr (rounded_mono ?_))
    omega

-- Whole numbers of units go to the nearest double.
def round : Extended ℚ → Extended ℚ
  | number x => carried (roundInt ⌊x⌋)
  | x => x

theorem round_int (x : Int) : round (number (x : ℚ)) = carried (roundInt x) := by
  rw [round, Int.floor_intCast]

theorem round_mono {x y : Extended ℚ} (le : x ≤ y) : round x ≤ round y := by
  cases x with
  | number x =>
      cases y with
      | number y => exact carried_mono (round_int_mono (Int.floor_le_floor (by simpa using le)))
      | infinite s =>
          obtain rfl : s = false := by simpa using le
          exact carried_le_infinite _
      | undefined => exact absurd le (not_le_undefined _)
  | infinite s =>
      cases y with
      | number y =>
          obtain rfl : s = true := by simpa using le
          exact infinite_le_carried _
      | infinite t => exact le
      | undefined => exact absurd le (not_le_undefined _)
  | undefined => exact absurd le (not_undefined_le _)

theorem round_comparable (x : Extended ℚ) :
    Scalar.Comparable (round x) ↔ Scalar.Comparable x := by
  rw [comparable_iff, comparable_iff]
  cases x with
  | number x => simp [round, carried_ne_undefined]
  | infinite s => simp [round]
  | undefined => simp [round]

theorem units_within {s : Sign} {m : Nat} {e : Int} (canonical : Canonical m e) (fits : e ≤ 971) :
    carried (s.apply (units m e)) = number ((s.apply (units m e) : Int) : ℚ) := by
  have below := Int.ofNat_lt.mpr (units_lt_limit canonical fits)
  cases s <;> dsimp only [Sign.apply] <;> exact carried_within (by omega) (by omega)

theorem round_zero : round 0 = 0 :=
  (round_int 0).trans (carried_within (x := 0) (neg_lt_zero.mpr limit_pos) limit_pos)

-- A double that has a value is not rounded.
theorem round_reading {u : UnpackedFloat} (representable : Representable u) :
    round (reading u) = reading u := by
  cases u with
  | notANumber => rfl
  | infinity s => cases s <;> rfl
  | zero s => exact round_zero
  | finite s m e positive =>
      obtain ⟨canonical, fits⟩ := representable
      rw [reading, round_int, round_int_apply, units, rounded_short canonical.short]
      exact units_within canonical fits

theorem reading_finite (s : Sign) {m : Nat} {e : Int} (positive : 0 < m)
    (canonical : Canonical m e) :
    reading (stored (.finite s m e positive)) = carried (s.apply (units m e)) := by
  by_cases fits : e ≤ 971
  · rw [stored_representable (u := .finite s m e positive) ⟨canonical, fits⟩]
    exact (units_within canonical fits).symm
  · have beyond := Int.ofNat_le.mpr (limit_le_units canonical (not_le.mp fits))
    have above := limit_pos
    rw [stored_beyond s positive (not_le.mp fits)]
    cases s with
    | positive => exact (if_pos beyond).symm
    | negative =>
        refine ((if_neg ?_).trans (if_pos (neg_le_neg beyond))).symm
        dsimp only [Sign.apply]
        omega

theorem reading_normalize (x : Int) {e : Int} (least : -1074 ≤ e) (zero : Sign) :
    reading (stored (UnpackedFloat.normalize Format.binary64 x e zero)) =
      carried (roundInt (x * 2 ^ (e + 1074).toNat)) := by
  have signed (s : Sign) (m : Nat) (positive : 0 < m) :
      reading (stored (UnpackedFloat.round Format.binary64 s m e)) =
        carried (roundInt (s.apply (units m e))) := by
    obtain ⟨m', e', positive', same, canonical, value⟩ := round_spec s positive least
    rw [same, reading_finite s positive' canonical, value, round_int_apply]
  unfold UnpackedFloat.normalize
  rcases lt_trichotomy x 0 with below | rfl | above
  · rw [compare_lt_iff_lt.mpr below]
    dsimp only
    rw [signed .negative _ (by omega), Sign.apply, units]
    congr 2
    push_cast
    rw [Int.toNat_of_nonneg (by omega), neg_mul, neg_neg]
  · rw [compare_eq_iff_eq.mpr rfl, zero_mul]
    dsimp only
    rw [stored_representable (u := .zero zero) trivial]
    exact ((round_int 0).symm.trans round_zero).symm
  · rw [compare_gt_iff_gt.mpr above]
    dsimp only
    rw [signed .positive _ (by omega), Sign.apply, units]
    congr 2
    push_cast
    rw [Int.toNat_of_nonneg above.le]

theorem aligned_units (s : Sign) {m : Nat} {e least : Int} (bound : -1074 ≤ least)
    (below : least ≤ e) :
    s.apply (m <<< (e - least).toNat : Nat) * 2 ^ (least + 1074).toNat = s.apply (units m e) := by
  have moved := units_shifted m (e - least).toNat (e := e) (by omega)
  have exponent : e - (e - least).toNat = least := by omega
  rw [exponent] at moved
  have value : ((m <<< (e - least).toNat : Nat) * 2 ^ (least + 1074).toNat : Int) = units m e := by
    exact_mod_cast moved
  cases s with
  | negative => exact (neg_mul _ _).trans (congrArg Neg.neg value)
  | positive => exact value

theorem reading_add {u v : UnpackedFloat} (left : Representable u) (right : Representable v) :
    reading (stored (UnpackedFloat.add Format.binary64 u v)) = round (reading u + reading v) := by
  have same (w : UnpackedFloat) (representable : Representable w)
      (sum : reading w = reading u + reading v) :
      reading (stored w) = round (reading u + reading v) := by
    rw [stored_representable representable, ← sum, round_reading representable]
  cases u with
  | notANumber => exact same .notANumber trivial (undefined_add _).symm
  | infinity s =>
      cases v with
      | notANumber => exact same .notANumber trivial (add_undefined _).symm
      | infinity t => cases s <;> cases t <;> exact same _ trivial rfl
      | zero t => cases s <;> exact same _ trivial rfl
      | finite t m e positive => cases s <;> exact same _ trivial rfl
  | zero s =>
      cases v with
      | notANumber => exact same .notANumber trivial (add_undefined _).symm
      | infinity t => cases t <;> exact same _ trivial rfl
      | zero t => cases s <;> cases t <;> exact same _ trivial (congrArg number (add_zero 0).symm)
      | finite t m e positive => exact same _ right (congrArg number (zero_add _).symm)
  | finite s m e positive =>
      cases v with
      | notANumber => exact same .notANumber trivial (add_undefined _).symm
      | infinity t => cases t <;> exact same _ trivial rfl
      | zero t => exact same _ left (congrArg number (add_zero _).symm)
      | finite t m' e' positive' =>
          have least := left.1.least
          have least' := right.1.least
          have bound : -1074 ≤ min e e' := le_min least least'
          refine (reading_normalize _ bound _).trans ?_
          rw [add_mul, aligned_units s bound (min_le_left _ _), aligned_units t bound (min_le_right _ _),
            ← round_int]
          exact congrArg (fun x => round (number x)) (Int.cast_add _ _)

theorem sub_eq_add_neg (u v : UnpackedFloat) :
    UnpackedFloat.sub Format.binary64 u v = UnpackedFloat.add Format.binary64 u v.neg := by
  cases u with
  | finite s m e positive =>
      cases v with
      | finite t m' e' positive' =>
          cases t with
          | negative =>
              exact congrArg (UnpackedFloat.normalize Format.binary64 · _ _) (sub_neg_eq_add _ _)
          | positive =>
              exact congrArg (UnpackedFloat.normalize Format.binary64 · _ _) Int.sub_eq_add_neg
      | _ => rfl
  | _ => cases v <;> rfl

theorem representable_neg {u : UnpackedFloat} (representable : Representable u) :
    Representable u.neg := by
  cases u <;> exact representable

theorem reading_neg (u : UnpackedFloat) : reading u.neg = -reading u := by
  cases u with
  | notANumber => rfl
  | infinity s => cases s <;> rfl
  | zero s => exact congrArg number neg_zero.symm
  | finite s m e positive =>
      cases s with
      | negative => exact congrArg number (by simp [Sign.apply])
      | positive => exact congrArg number (Int.cast_neg _)

theorem signed_units_injective {s s' : Sign} {m m' : Nat} {e e' : Int} (positive : 0 < m)
    (left : Canonical m e) (right : Canonical m' e')
    (same : s.apply (units m e) = s'.apply (units m' e')) : s = s' ∧ m = m' ∧ e = e' := by
  have above := units_pos (e := e) positive
  cases s <;> cases s' <;> dsimp only [Sign.apply] at same
  · exact ⟨rfl, units_injective left right (Int.natCast_inj.mp (neg_inj.mp same))⟩
  · omega
  · omega
  · exact ⟨rfl, units_injective left right (Int.natCast_inj.mp same)⟩

-- Only the two zeros stand for one number.
theorem reading_injective {u v : UnpackedFloat} (left : Representable u) (right : Representable v)
    (same : reading u = reading v) : u = v ∨ reading u = number 0 := by
  cases u with
  | notANumber =>
      cases v with
      | notANumber => exact .inl rfl
      | infinity t => cases t <;> cases same
      | _ => cases same
  | infinity s =>
      cases v with
      | infinity t => cases s <;> cases t <;> first | exact .inl rfl | cases same
      | _ => cases s <;> cases same
  | zero s => exact .inr rfl
  | finite s m e positive =>
      cases v with
      | notANumber => cases same
      | infinity t => cases t <;> cases same
      | zero t => exact .inr same
      | finite t m' e' positive' =>
          have values : s.apply (units m e) = t.apply (units m' e') :=
            Int.cast_injective (Extended.number.inj same)
          obtain ⟨rfl, rfl, rfl⟩ := signed_units_injective positive left.1 right.1 values
          exact .inl rfl

-- The number or infinity that a double stands for.
def exact (a : Float) : Extended ℚ := reading a.toModel.unpack

theorem representable (a : Float) : Representable a.toModel.unpack :=
  unpack_representable _

theorem le_iff (a b : Float) : a ≤ b ↔ exact a ≤ exact b :=
  decide_eq_true_iff.trans (compare_reading (representable a) (representable b)).1

theorem lt_iff (a b : Float) : a < b ↔ exact a < exact b :=
  decide_eq_true_iff.trans (compare_reading (representable a) (representable b)).2

theorem exact_add (a b : Float) : exact (a + b) = round (exact a + exact b) :=
  reading_add (representable a) (representable b)

theorem exact_sub (a b : Float) : exact (a - b) = round (exact a - exact b) := by
  refine (congrArg (fun u => reading (stored u)) (sub_eq_add_neg _ _)).trans ?_
  rw [reading_add (representable a) (representable_neg (representable b)), reading_neg]
  rfl

theorem exact_zero : exact 0 = 0 := rfl

theorem is_finite_exact (a : Float) : Scalar.isFinite a = Scalar.isFinite (exact a) := by
  change a.toModel.unpack.isFinite = _
  unfold exact
  cases a.toModel.unpack with
  | infinity s => cases s <;> rfl
  | _ => rfl

theorem exact_injective {a b : Float} (same : exact a = exact b) : a = b ∨ exact a = 0 := by
  rcases reading_injective (representable a) (representable b) same with unpacked | zero
  · cases a
    cases b
    exact .inl (congrArg Float.ofModel (unpack_injective unpacked))
  · exact .inr zero

theorem comparable_exact (a : Float) : Scalar.Comparable a ↔ Scalar.Comparable (exact a) :=
  le_iff a a

theorem is_zero_iff (a : Float) : Scalar.isZero a = true ↔ exact a = 0 := by
  rw [Scalar.isZero, Bool.and_eq_true, decide_eq_true_iff, decide_eq_true_iff, le_iff, le_iff,
    exact_zero]
  constructor
  · rintro ⟨le, ge⟩
    exact Extended.eq_of_le_of_ge le ge
  · intro zero
    rw [zero]
    exact ⟨(number_le_number 0 0).mpr le_rfl, (number_le_number 0 0).mpr le_rfl⟩

instance : OrderedScalar Float where
  finite_zero := by
    rw [is_finite_exact]
    rfl
  comparable_of_finite a finite := by
    rw [is_finite_exact] at finite
    exact (comparable_exact a).mpr (OrderedScalar.comparable_of_finite _ finite)
  comparable_of_le a b le := by
    rw [comparable_exact, comparable_exact]
    exact OrderedScalar.comparable_of_le _ _ ((le_iff a b).mp le)
  le_trans a b c ab bc := by
    rw [le_iff] at *
    exact OrderedScalar.le_trans _ _ _ ab bc
  le_total a b left right := by
    rw [comparable_exact] at left right
    rw [le_iff, le_iff]
    exact OrderedScalar.le_total _ _ left right
  lt_iff a b := by
    rw [le_iff, le_iff, lt_iff]
    exact OrderedScalar.lt_iff _ _
  eq_or_zeros a b le ge := by
    rw [le_iff] at le ge
    have same := Extended.eq_of_le_of_ge le ge
    refine (exact_injective same).imp id fun zero => ⟨?_, ?_⟩
    · rw [is_zero_iff, zero]
    · rw [is_zero_iff, ← same, zero]
  sub_nonpos a b finite le := by
    rw [is_finite_exact] at finite
    rw [le_iff] at le
    rw [le_iff, exact_sub, exact_zero, ← round_zero]
    exact round_mono (OrderedScalar.sub_nonpos _ _ finite le)
  sub_nonneg a b finite le := by
    rw [is_finite_exact] at finite
    rw [le_iff] at le
    rw [le_iff, exact_sub, exact_zero, ← round_zero]
    exact round_mono (OrderedScalar.sub_nonneg _ _ finite le)
  add_le_add a b c d ab cd left right := by
    rw [comparable_exact, exact_add, round_comparable] at left right
    rw [le_iff] at ab cd
    rw [le_iff, exact_add, exact_add]
    exact round_mono (OrderedScalar.add_le_add _ _ _ _ ab cd left right)
  terms_comparable a b sum := by
    rw [comparable_exact, exact_add, round_comparable] at sum
    rw [comparable_exact, comparable_exact]
    exact OrderedScalar.terms_comparable _ _ sum
  add_finite a b comparable finite := by
    rw [is_finite_exact] at finite
    rw [comparable_exact] at comparable
    rw [comparable_exact, exact_add, round_comparable]
    exact OrderedScalar.add_finite _ _ comparable finite

-- A magnitude in the count of all doubles from zero on.
def place : UnpackedFloat → Nat
  | .finite _ m e _ => (e + 1074).toNat * 2 ^ 52 + m
  | .infinity _ => 2047 * 2 ^ 52
  | _ => 0

theorem place_lt_of_exponent {m m' : Nat} {e e' : Int} (left : Canonical m e)
    (right : Canonical m' e') (less : e < e') :
    (e + 1074).toNat * 2 ^ 52 + m < (e' + 1074).toNat * 2 ^ 52 + m' := by
  have least := left.least
  have short := left.short
  have full := right.full.resolve_right (by omega)
  omega

theorem units_le_iff {m m' : Nat} {e e' : Int} (left : Canonical m e) (right : Canonical m' e') :
    units m e ≤ units m' e' ↔ (e + 1074).toNat * 2 ^ 52 + m ≤ (e' + 1074).toNat * 2 ^ 52 + m' := by
  rcases lt_trichotomy e e' with less | rfl | more
  · exact iff_of_true (units_lt_of_exponent left right less).le
      (place_lt_of_exponent left right less).le
  · rw [Nat.add_le_add_iff_left]
    exact Nat.mul_le_mul_right_iff (Nat.two_pow_pos _)
  · exact iff_of_false (units_lt_of_exponent right left more).not_ge
      (place_lt_of_exponent right left more).not_ge

theorem pack_finite_bits (s : Sign) {m : Nat} {e : Int} (positive : 0 < m)
    (canonical : Canonical m e) (fits : e ≤ 971) :
    (pack Format.binary64 (.finite s m e positive)).toNat =
      s.toBitVec.toNat * 2 ^ 63 + place (.finite s m e positive) := by
  have short := canonical.short
  have least := canonical.least
  by_cases full : 2 ^ 52 ≤ m
  · have mantissa : (BitVec.ofNat 52 m).toNat = m % 2 ^ 52 := BitVec.toNat_ofNat _ _
    rw [pack_normal s positive short fits full, components_fields, stored_exponent fits, mantissa,
      place]
    omega
  · obtain rfl := canonical.full.resolve_left full
    rw [pack_subnormal s positive (not_le.mp full), components_fields, place]
    have mantissa : (BitVec.ofNat 52 m).toNat = m := Nat.mod_eq_of_lt (not_le.mp full)
    rw [mantissa]
    change (_ * 2 ^ 11 + 0) * 2 ^ 52 + m = _ + (0 * 2 ^ 52 + m)
    omega

theorem below_zero {u : UnpackedFloat} (below : reading u < number 0) :
    u = .infinity .negative ∨ ∃ m e positive, u = .finite .negative m e positive := by
  rcases u with (_ | _) | _ | _ | ⟨_ | _, m, e, positive⟩
  · exact .inl rfl
  · cases below
  · exact absurd below (not_undefined_lt _)
  · exact absurd ((number_lt_number _ _).mp below) (lt_irrefl 0)
  · exact .inr ⟨m, e, positive, rfl⟩
  · have above : ((units m e : Int) : ℚ) < 0 := (number_lt_number _ _).mp below
    exact absurd (Int.cast_lt_zero.mp above) (Int.natCast_nonneg _).not_gt

theorem place_lt_infinity {s t : Sign} {m : Nat} {e : Int} {positive : 0 < m}
    (representable : Representable (.finite s m e positive)) :
    place (.finite s m e positive) < place (.infinity t) := by
  have short := representable.1.short
  have least := representable.1.least
  have fits := representable.2
  dsimp only [place]
  omega

-- Below zero the count of a double falls as its value rises.
theorem place_le_iff {u v : UnpackedFloat} (left : Representable u) (right : Representable v)
    (below : reading u < number 0) (lower : reading v < number 0) :
    place v ≤ place u ↔ reading u ≤ reading v := by
  rcases below_zero below with rfl | ⟨m, e, positive, rfl⟩ <;>
    rcases below_zero lower with rfl | ⟨m', e', positive', rfl⟩
  · exact iff_of_true le_rfl rfl
  · exact iff_of_true (place_lt_infinity right).le rfl
  · exact iff_of_false (place_lt_infinity left).not_ge Bool.false_ne_true
  · refine (units_le_iff right.1 left.1).symm.trans ?_
    simp [reading, Sign.apply]

theorem negative_bits {a : Float} (negative : a < 0) :
    a.toBits.toNat = 2 ^ 63 + place a.toModel.unpack := by
  have kept : (pack Format.binary64 a.toModel.unpack).toNat = a.toBits.toNat :=
    congrArg BitVec.toNat (pack_unpack a.toModel.valid)
  have represented := representable a
  rw [← kept]
  rcases below_zero ((lt_iff a 0).mp negative) with same | ⟨m, e, positive, same⟩
  · rw [same]
    rfl
  · rw [same] at represented ⊢
    exact pack_finite_bits .negative positive represented.1 represented.2

theorem rank_of_negative {a : Float} (negative : a < 0) :
    Float.rank a = -1 - (place a.toModel.unpack : Int) := by
  have bits := negative_bits negative
  have signed : ¬a.toBits.toNat < Nat.pow 2 63 := by
    rw [bits]
    exact (Nat.le_add_right _ _).not_gt
  have power : (Nat.pow 2 63 : Int) = (2 ^ 63 : Nat) := rfl
  refine (if_neg signed).trans ?_
  rw [bits, power]
  omega

theorem exact_neg (a : Float) : exact (-a) = -exact a :=
  (congrArg reading (stored_representable (representable_neg (representable a)))).trans (reading_neg _)

instance : SortedScalar Float where
  total a b := by
    rw [Bool.or_eq_true]
    exact (le_total (Float.rank a) (Float.rank b)).imp decide_eq_true decide_eq_true
  trans a b c ab bc := decide_eq_true ((of_decide_eq_true ab).trans (of_decide_eq_true bc))
  precedes_iff a b negative lower := by
    refine decide_eq_true_iff.trans ?_
    rw [rank_of_negative negative, rank_of_negative lower, le_iff]
    refine Iff.trans ?_ (place_le_iff (representable a) (representable b)
      ((lt_iff a 0).mp negative) ((lt_iff b 0).mp lower))
    omega
  neg_le_neg_iff a b := by
    rw [le_iff, le_iff, exact_neg, exact_neg]
    exact SortedScalar.neg_le_neg_iff _ _
  negative t a nonneg less := by
    rw [lt_iff, exact_neg] at less
    exact (lt_iff a 0).mpr (SortedScalar.negative _ _ ((le_iff 0 t).mp nonneg) less)

end EconomicImpact.Double
