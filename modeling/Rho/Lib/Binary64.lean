import Mathlib.Algebra.Group.Nat.Defs
import Mathlib.Data.Nat.Log
import Mathlib.Tactic.Common

/-!
# Integers as 64-bit floating-point numbers

An integer is read as the nearest number with a significand of 53 bits, the even one of two that are equally near.
-/

namespace Binary64

/-- The distance of the representable numbers around a natural number. -/
def unit (n : Nat) : Nat := 2 ^ (n.log2 - 52)

def roundNat (n : Nat) : Nat :=
  if unit n < 2 * (n % unit n) ∨ 2 * (n % unit n) = unit n ∧ n / unit n % 2 = 1 then (n / unit n + 1) * unit n
  else n / unit n * unit n

def round : Int → Int
  | .ofNat n => roundNat n
  | .negSucc n => -(roundNat (n + 1) : Int)

example : round (2 ^ 53 + 1) = 2 ^ 53 ∧ round (2 ^ 53 + 3) = 2 ^ 53 + 4 ∧ round (-5) = -5 := by decide

theorem roundNat_bounds (n : Nat) : n / unit n * unit n ≤ roundNat n ∧ roundNat n ≤ (n / unit n + 1) * unit n := by
  unfold roundNat
  split
  · exact ⟨Nat.mul_le_mul_right _ (Nat.le_succ _), Nat.le_refl _⟩
  · exact ⟨Nat.le_refl _, Nat.mul_le_mul_right _ (Nat.le_succ _)⟩

theorem unit_pos (n : Nat) : 0 < unit n := Nat.two_pow_pos _

/-- The distance divides the powers of two from the number's own on. -/
theorem unit_dvd (n : Nat) {k : Nat} (hk : n.log2 ≤ k) : unit n ∣ 2 ^ k := Nat.pow_dvd_pow 2 (by omega)

theorem le_roundNat {n k : Nat} (hdvd : unit n ∣ k) (hk : k ≤ n) : k ≤ roundNat n := by
  obtain ⟨c, rfl⟩ := hdvd
  have hc : c ≤ n / unit n := (Nat.le_div_iff_mul_le (unit_pos n)).mpr (by rwa [Nat.mul_comm])
  calc unit n * c = c * unit n := Nat.mul_comm _ _
    _ ≤ n / unit n * unit n := Nat.mul_le_mul_right _ hc
    _ ≤ roundNat n := (roundNat_bounds n).1

theorem roundNat_le {n k : Nat} (hdvd : unit n ∣ k) (hk : n < k) : roundNat n ≤ k := by
  obtain ⟨c, rfl⟩ := hdvd
  have hc : n / unit n < c := (Nat.div_lt_iff_lt_mul (unit_pos n)).mpr (by rwa [Nat.mul_comm])
  calc roundNat n ≤ (n / unit n + 1) * unit n := (roundNat_bounds n).2
    _ ≤ c * unit n := Nat.mul_le_mul_right _ hc
    _ = unit n * c := Nat.mul_comm _ _

/-- Rounding keeps the order. -/
theorem roundNat_mono {m n : Nat} (h : m ≤ n) : roundNat m ≤ roundNat n := by
  have hlog : m.log2 ≤ n.log2 := by
    rw [Nat.log2_eq_log_two, Nat.log2_eq_log_two]
    exact Nat.log_mono_right h
  rcases Nat.lt_or_eq_of_le hlog with hlt | heq
  · -- A power of two lies between the numbers.
    have hm : m < 2 ^ n.log2 := lt_of_lt_of_le Nat.lt_log2_self (Nat.pow_le_pow_right (by decide) hlt)
    have hn : 2 ^ n.log2 ≤ n := Nat.log2_self_le (by rintro rfl; exact Nat.not_lt_zero _ hlt)
    exact (roundNat_le (unit_dvd m hlog) hm).trans (le_roundNat (unit_dvd n (Nat.le_refl _)) hn)
  · have hunit : unit m = unit n := by rw [unit, unit, heq]
    rcases Nat.lt_or_eq_of_le (Nat.div_le_div_right h : m / unit n ≤ n / unit n) with hlt | hquot
    · refine (roundNat_bounds m).2.trans (le_trans ?_ (roundNat_bounds n).1)
      rw [hunit]
      exact Nat.mul_le_mul_right _ hlt
    · have hrest : m % unit n ≤ n % unit n := by
        have hm := Nat.div_add_mod m (unit n)
        have hn := Nat.div_add_mod n (unit n)
        rw [hquot] at hm
        omega
      unfold roundNat
      rw [hunit, hquot]
      split
      · next hup =>
        rw [if_pos (by omega)]
      · split
        · exact Nat.mul_le_mul_right _ (Nat.le_succ _)
        · exact Nat.le_refl _

theorem round_mono {m n : Int} (h : m ≤ n) : round m ≤ round n := by
  cases m with
  | ofNat m =>
    cases n with
    | ofNat n => exact Int.ofNat_le.mpr (roundNat_mono (Int.ofNat_le.mp h))
    | negSucc n => exact absurd (le_trans (Int.natCast_nonneg m) h) (by omega)
  | negSucc m =>
    cases n with
    | ofNat n => exact le_trans (Int.neg_nonpos_of_nonneg (Int.natCast_nonneg _)) (Int.natCast_nonneg _)
    | negSucc n =>
      have hle : n + 1 ≤ m + 1 := by omega
      exact Int.neg_le_neg (Int.ofNat_le.mpr (roundNat_mono hle))

end Binary64
