import Mathlib

/-!
Integers read as binary floating-point numbers of a given precision: the nearest
number with at most that many significant bits, the even one of two nearest.
-/
namespace Rounding

variable {precision m n : ℕ} {y z : ℤ}

/-- The distance between neighbouring floats of the size of `n`. -/
def unit (precision n : ℕ) : ℕ := 2 ^ (n.log2 + 1 - precision)

/-- Rounds to a multiple of the unit, half-way cases to the even multiple. -/
def roundNat (precision n : ℕ) : ℕ :=
  let u := unit precision n
  if u < 2 * (n % u) ∨ (2 * (n % u) = u ∧ n / u % 2 = 1) then (n / u + 1) * u else n / u * u

def roundInt (precision : ℕ) (z : ℤ) : ℤ :=
  if 0 ≤ z then roundNat precision z.toNat else -roundNat precision (-z).toNat

theorem unit_pos : 0 < unit precision n := by
  unfold unit
  positivity

theorem floor_le_roundNat : n / unit precision n * unit precision n ≤ roundNat precision n := by
  unfold roundNat
  simp only
  split_ifs
  · exact Nat.mul_le_mul_right _ (by omega)
  · exact le_refl _

theorem roundNat_le_ceil :
    roundNat precision n ≤ (n / unit precision n + 1) * unit precision n := by
  unfold roundNat
  simp only
  split_ifs
  · exact le_refl _
  · exact Nat.mul_le_mul_right _ (by omega)

theorem lt_two_pow_mul_unit : n < 2 ^ precision * unit precision n := by
  calc n < 2 ^ (n.log2 + 1) := Nat.lt_log2_self
    _ ≤ 2 ^ (precision + (n.log2 + 1 - precision)) := Nat.pow_le_pow_right (by omega) (by omega)
    _ = 2 ^ precision * unit precision n := by rw [pow_add, unit]

theorem roundNat_le_of_unit_eq (h : m ≤ n) (hu : unit precision m = unit precision n) :
    roundNat precision m ≤ roundNat precision n := by
  rcases Nat.lt_or_ge (m / unit precision n) (n / unit precision n) with hq | hq
  · calc roundNat precision m ≤ (m / unit precision m + 1) * unit precision m := roundNat_le_ceil
      _ ≤ n / unit precision n * unit precision n := by
        rw [hu]
        exact Nat.mul_le_mul_right _ (by omega)
      _ ≤ roundNat precision n := floor_le_roundNat
  · have hq : m / unit precision n = n / unit precision n :=
      le_antisymm (Nat.div_le_div_right h) hq
    have hr : m % unit precision n ≤ n % unit precision n := by
      have hm := Nat.div_add_mod m (unit precision n)
      have hn := Nat.div_add_mod n (unit precision n)
      rw [hq] at hm
      omega
    unfold roundNat
    simp only [hu, hq]
    split_ifs with hup hup' hup'
    · exact le_refl _
    · omega
    · exact Nat.mul_le_mul_right _ (by omega)
    · exact le_refl _

theorem roundNat_le_of_unit_lt (hp : 0 < precision) (hu : unit precision m < unit precision n) :
    roundNat precision m ≤ roundNat precision n := by
  have hlog : m.log2 + 1 - precision < n.log2 + 1 - precision :=
    (Nat.pow_lt_pow_iff_right (by omega)).mp hu
  have htwice : 2 * unit precision m ≤ unit precision n := by
    rw [unit, unit, ← pow_succ']
    exact Nat.pow_le_pow_right (by omega) (by omega)
  have hhalf : 2 * 2 ^ (precision - 1) = 2 ^ precision := by
    rw [← pow_succ']
    congr 1
    omega
  have hsmall : m / unit precision m + 1 ≤ 2 ^ precision :=
    Nat.succ_le_of_lt ((Nat.div_lt_iff_lt_mul unit_pos).mpr lt_two_pow_mul_unit)
  have hn : n ≠ 0 := by
    rintro rfl
    simp at hlog
    omega
  have hlarge : 2 ^ (precision - 1) ≤ n / unit precision n := by
    rw [Nat.le_div_iff_mul_le unit_pos, unit, ← pow_add]
    calc 2 ^ (precision - 1 + (n.log2 + 1 - precision)) = 2 ^ n.log2 := by
          congr 1
          omega
      _ ≤ n := Nat.log2_self_le hn
  calc roundNat precision m ≤ (m / unit precision m + 1) * unit precision m := roundNat_le_ceil
    _ ≤ 2 ^ precision * unit precision m := Nat.mul_le_mul_right _ hsmall
    _ = 2 ^ (precision - 1) * (2 * unit precision m) := by rw [← hhalf]; ring
    _ ≤ 2 ^ (precision - 1) * unit precision n := Nat.mul_le_mul_left _ htwice
    _ ≤ n / unit precision n * unit precision n := Nat.mul_le_mul_right _ hlarge
    _ ≤ roundNat precision n := floor_le_roundNat

theorem roundNat_mono (hp : 0 < precision) (h : m ≤ n) :
    roundNat precision m ≤ roundNat precision n := by
  have hu : unit precision m ≤ unit precision n := by
    have hlog : m.log2 ≤ n.log2 := by
      rw [Nat.log2_eq_log_two, Nat.log2_eq_log_two]
      exact Nat.log_mono_right h
    exact Nat.pow_le_pow_right (by omega) (by omega)
  rcases hu.lt_or_eq with hu | hu
  · exact roundNat_le_of_unit_lt hp hu
  · exact roundNat_le_of_unit_eq h hu

/-- Rounding keeps the order of integers, though not their distinctness. -/
theorem roundInt_mono (hp : 0 < precision) (h : y ≤ z) :
    roundInt precision y ≤ roundInt precision z := by
  unfold roundInt
  split_ifs with hy hz hz
  · exact_mod_cast roundNat_mono hp (Int.toNat_le_toNat h)
  · omega
  · omega
  · exact neg_le_neg (by exact_mod_cast roundNat_mono hp (by omega))

theorem roundNat_of_le (hp : 0 < precision) (h : n ≤ 2 ^ precision) : roundNat precision n = n := by
  rcases h.lt_or_eq with h | rfl
  · have hu : unit precision n = 1 := by
      have hlog : n.log2 + 1 - precision = 0 := by
        rcases Nat.eq_zero_or_pos n with rfl | hn
        · simp
          omega
        · have := (Nat.log2_lt hn.ne').mpr h
          omega
      rw [unit, hlog, pow_zero]
    simp [roundNat, hu, Nat.mod_one]
  · have hu : unit precision (2 ^ precision) = 2 := by
      rw [unit, Nat.log2_two_pow, Nat.add_sub_cancel_left, pow_one]
    have hdvd : 2 ∣ 2 ^ precision := dvd_pow_self 2 hp.ne'
    simp only [roundNat, hu, Nat.mod_eq_zero_of_dvd hdvd]
    simpa using Nat.div_mul_cancel hdvd

theorem roundInt_of_abs_le (hp : 0 < precision) (h : |z| ≤ 2 ^ precision) :
    roundInt precision z = z := by
  have hbound := abs_le.mp h
  unfold roundInt
  split_ifs with hz
  · rw [roundNat_of_le hp]
    · omega
    · have : (z.toNat : ℤ) ≤ 2 ^ precision := by omega
      exact_mod_cast this
  · rw [roundNat_of_le hp]
    · omega
    · have : ((-z).toNat : ℤ) ≤ 2 ^ precision := by omega
      exact_mod_cast this

end Rounding
