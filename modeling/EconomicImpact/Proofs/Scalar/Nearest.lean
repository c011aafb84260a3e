import Mathlib.Data.Nat.Log
import Mathlib.Data.Nat.Size
import Mathlib.Tactic.Ring

set_option autoImplicit false

namespace EconomicImpact.Double

-- Halves a number of half units. An odd one goes up if anything lies above it, and else to the even side.
def halve (halves : Nat) (more : Bool) : Nat :=
  halves / 2 + if halves % 2 = 0 then 0 else if more then 1 else halves / 2 % 2

theorem halve_mono {a b : Nat} {s t : Bool} (le : a ≤ b) (more : a = b → s = true → t = true) :
    halve a s ≤ halve b t := by
  unfold halve
  rcases le.lt_or_eq with less | same
  · split_ifs <;> omega
  · have more := more same
    subst same
    cases s <;> cases t <;> simp at more ⊢
    split_ifs <;> omega

-- A number in units of two to the power of `places`: the nearest one, and from the middle the even one.
def nearest : Nat → Nat → Nat
  | 0, x => x
  | places + 1, x => halve (x / 2 ^ places) (x % 2 ^ places != 0)

theorem nearest_mono (places : Nat) {x y : Nat} (le : x ≤ y) : nearest places x ≤ nearest places y := by
  cases places with
  | zero => exact le
  | succ places =>
      refine halve_mono (Nat.div_le_div_right le) fun same more => ?_
      have left := Nat.div_add_mod x (2 ^ places)
      have right := Nat.div_add_mod y (2 ^ places)
      rw [same] at left
      simp only [bne_iff_ne] at more ⊢
      omega

theorem nearest_bounds (places x : Nat) :
    x / 2 ^ places ≤ nearest places x ∧ nearest places x ≤ x / 2 ^ places + 1 := by
  cases places with
  | zero => simp [nearest]
  | succ places =>
      rw [pow_succ, ← Nat.div_div_eq_div_mul, nearest, halve]
      split_ifs <;> omega

theorem nearest_multiple (places k : Nat) : nearest places (k * 2 ^ places) = k := by
  cases places with
  | zero => simp [nearest]
  | succ places =>
      have twice : k * 2 ^ (places + 1) = 2 * k * 2 ^ places := by ring
      rw [nearest, twice, Nat.mul_div_cancel _ (Nat.two_pow_pos places), halve]
      simp

theorem nearest_scaled (places more x : Nat) :
    nearest (places + more) (x * 2 ^ more) = nearest places x := by
  cases places with
  | zero =>
      rw [zero_add]
      exact nearest_multiple more x
  | succ places =>
      have positive := Nat.two_pow_pos more
      rw [Nat.succ_add_eq_add_succ, Nat.add_succ, nearest, nearest, pow_add,
        Nat.mul_div_mul_right _ _ positive, Nat.mul_mod_mul_right]
      exact congrArg _ (Bool.eq_iff_iff.mpr (by simp))

-- How many places of a number lie beyond its first 53.
def excess (x : Nat) : Nat := x.log2 - 52

-- A number rounded to 53 places.
def rounded (x : Nat) : Nat := nearest (excess x) x * 2 ^ excess x

theorem lt_two_pow_excess (x : Nat) : x < 2 ^ (53 + excess x) :=
  Nat.lt_log2_self.trans_le (Nat.pow_le_pow_right Nat.two_pos (by unfold excess; omega))

theorem two_pow_le_of_excess {x : Nat} (long : 0 < excess x) : 2 ^ (52 + excess x) ≤ x := by
  have nonzero : x ≠ 0 := by
    rintro rfl
    exact absurd long (by decide)
  have places : 52 + excess x = x.log2 := by
    unfold excess at long ⊢
    omega
  rw [places]
  exact Nat.log2_self_le nonzero

theorem nearest_le (x : Nat) : nearest (excess x) x ≤ 2 ^ 53 := by
  have short : x / 2 ^ excess x < 2 ^ 53 := by
    rw [Nat.div_lt_iff_lt_mul (Nat.two_pow_pos _), ← pow_add]
    exact lt_two_pow_excess x
  exact (nearest_bounds _ x).2.trans short

theorem le_nearest {x : Nat} (long : 0 < excess x) : 2 ^ 52 ≤ nearest (excess x) x := by
  refine le_trans ?_ (nearest_bounds _ x).1
  rw [Nat.le_div_iff_mul_le (Nat.two_pow_pos _), ← pow_add]
  exact two_pow_le_of_excess long

theorem excess_mono {x y : Nat} (le : x ≤ y) : excess x ≤ excess y := by
  unfold excess
  rw [Nat.log2_eq_log_two, Nat.log2_eq_log_two]
  exact Nat.sub_le_sub_right (Nat.log_mono_right le) 52

-- Numbers with more places beyond the first 53 lie above the power of two that the others round to at most.
theorem rounded_mono {x y : Nat} (le : x ≤ y) : rounded x ≤ rounded y := by
  unfold rounded
  rcases (excess_mono le).lt_or_eq with fewer | same
  · calc nearest (excess x) x * 2 ^ excess x
        ≤ 2 ^ 53 * 2 ^ excess x := Nat.mul_le_mul_right _ (nearest_le x)
      _ = 2 ^ 52 * 2 ^ (excess x + 1) := by ring
      _ ≤ 2 ^ 52 * 2 ^ excess y :=
          Nat.mul_le_mul_left _ (Nat.pow_le_pow_right Nat.two_pos fewer)
      _ ≤ nearest (excess y) y * 2 ^ excess y :=
          Nat.mul_le_mul_right _ (le_nearest (Nat.zero_lt_of_lt fewer))
  · rw [same]
    exact Nat.mul_le_mul_right _ (nearest_mono _ le)

theorem rounded_of_dvd {x : Nat} (multiple : 2 ^ excess x ∣ x) : rounded x = x := by
  unfold rounded
  generalize excess x = places at multiple
  obtain ⟨k, rfl⟩ := multiple
  rw [mul_comm (2 ^ places) k, nearest_multiple]

theorem excess_le (places : Nat) {m : Nat} (short : m < 2 ^ 53) : excess (m * 2 ^ places) ≤ places := by
  rcases eq_or_ne (m * 2 ^ places) 0 with zero | nonzero
  · simp [zero, excess]
  have bound : m * 2 ^ places < 2 ^ (53 + places) := by
    rw [pow_add]
    exact Nat.mul_lt_mul_of_pos_right short (Nat.two_pow_pos _)
  have shorter := (Nat.log2_lt nonzero).mpr bound
  unfold excess
  omega

theorem rounded_short {places m : Nat} (short : m < 2 ^ 53) :
    rounded (m * 2 ^ places) = m * 2 ^ places :=
  rounded_of_dvd ((pow_dvd_pow 2 (excess_le _ short)).trans (Nat.dvd_mul_left _ _))

end EconomicImpact.Double
