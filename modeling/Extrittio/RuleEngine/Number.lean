import Extrittio.RuleEngine.Evaluate

/-!
The order of metric numbers. Integers and doubles are compared as the rationals
that they denote, without a conversion that could round.
-/
namespace Extrittio

namespace MetricNumber

/-- A number that an observation or a threshold can hold: a 64-bit integer or a finite
double. -/
def Proper : MetricNumber → Prop
  | .integer value => -9223372036854775808 ≤ value ∧ value ≤ 9223372036854775807
  | .float value => value.isFinite = true

instance (n : MetricNumber) : Decidable n.Proper := by
  cases n <;> unfold Proper <;> infer_instance

/-- The rational that a number denotes. -/
def exact : MetricNumber → ℚ
  | .integer value => value
  | .float (.finite value) => value
  | .float _ => 0

theorem fract_eq (float : ℚ) :
    float - truncate float = (float.num.tmod float.den : ℤ) / (float.den : ℚ) := by
  have hden : (float.den : ℚ) ≠ 0 := by exact_mod_cast float.den_nz
  have hdivision : (float.num : ℚ) = float.den * truncate float + (float.num.tmod float.den : ℤ) := by
    exact_mod_cast (Int.mul_tdiv_add_tmod float.num float.den).symm
  rw [eq_div_iff hden, sub_mul, Rat.mul_den_eq_num, hdivision]
  ring

theorem abs_fract_lt_one (float : ℚ) : |float - truncate float| < 1 := by
  have hden : (0 : ℚ) < float.den := by exact_mod_cast float.den_pos
  have hmod : |float.num.tmod float.den| < float.den := by
    have hpos : (0 : ℤ) < float.den := by exact_mod_cast float.den_pos
    rw [abs_lt]
    exact ⟨Int.lt_tmod_of_pos float.num hpos, Int.tmod_lt_of_pos float.num hpos⟩
  rw [fract_eq, abs_div, abs_of_pos hden, div_lt_one hden]
  exact_mod_cast hmod

/-- The mixed comparison is that of the rationals, for every 64-bit integer. -/
theorem compareIntegerFloat_eq {integer : ℤ} (h : Proper (.integer integer)) (float : ℚ) :
    compareIntegerFloat integer float = Ord.compare (integer : ℚ) float := by
  obtain ⟨hmin, hmax⟩ := h
  have hmin : (-9223372036854775808 : ℚ) ≤ integer := by exact_mod_cast hmin
  have hmax : (integer : ℚ) ≤ 9223372036854775807 := by exact_mod_cast hmax
  obtain ⟨habove, hbelow⟩ := abs_lt.mp (abs_fract_lt_one float)
  symm
  unfold compareIntegerFloat
  split_ifs with hlarge hsmall
  · exact compare_lt_iff_lt.mpr (by linarith)
  · exact compare_gt_iff_gt.mpr (by linarith)
  · rcases lt_trichotomy integer (truncate float) with hlt | rfl | hgt
    · have hstep : (integer : ℚ) + 1 ≤ truncate float := by exact_mod_cast hlt
      rw [compare_lt_iff_lt.mpr hlt]
      exact compare_lt_iff_lt.mpr (by linarith)
    · rw [compare_eq_iff_eq.mpr rfl]
      -- the integer parts agree, so the sign of what was dropped decides
      simp only
      split_ifs with hpos hneg
      · exact compare_lt_iff_lt.mpr (by linarith)
      · exact compare_gt_iff_gt.mpr (by linarith)
      · exact compare_eq_iff_eq.mpr (by linarith)
    · have hstep : (truncate float : ℚ) + 1 ≤ integer := by exact_mod_cast hgt
      rw [compare_gt_iff_gt.mpr hgt]
      exact compare_gt_iff_gt.mpr (by linarith)

theorem compare_of_proper {a b : MetricNumber} (ha : a.Proper) (hb : b.Proper) :
    a.compare b = some (Ord.compare a.exact b.exact) := by
  cases a with
  | integer left =>
    cases b with
    | integer right =>
      show some (Ord.compare left right) = some (Ord.compare (left : ℚ) right)
      congr 1
      rcases lt_trichotomy left right with hlt | rfl | hgt
      · rw [compare_lt_iff_lt.mpr hlt, compare_lt_iff_lt.mpr (by exact_mod_cast hlt)]
      · rw [compare_eq_iff_eq.mpr rfl, compare_eq_iff_eq.mpr rfl]
      · rw [compare_gt_iff_gt.mpr hgt, compare_gt_iff_gt.mpr (by exact_mod_cast hgt)]
    | float right =>
      cases right with
      | finite right => exact congrArg some (compareIntegerFloat_eq ha right)
      | infinite | nan => cases hb
  | float left =>
    cases left with
    | finite left =>
      cases b with
      | integer right =>
        show some (compareIntegerFloat right left).swap = some (Ord.compare left (right : ℚ))
        rw [compareIntegerFloat_eq hb, ← Std.OrientedCmp.eq_swap]
      | float right =>
        cases right with
        | finite right => rfl
        | infinite | nan => cases hb
    | infinite | nan => cases ha

end MetricNumber

/-- The numbers that evaluation compares. -/
structure FiniteNumber where
  number : MetricNumber
  proper : number.Proper

namespace FiniteNumber

variable (a b c : FiniteNumber)

/-- `a` is at most `b`, as the comparison has it. -/
def le : Prop := (a.number.compare b.number).any Ordering.isLE = true

variable {a b c}

theorem le_iff : a.le b ↔ a.number.exact ≤ b.number.exact := by
  unfold le
  rw [MetricNumber.compare_of_proper a.proper b.proper, Option.any_some, Ordering.isLE_iff_ne_gt]
  exact compare_le_iff_le

theorem compare_eq_eq_iff :
    a.number.compare b.number = some .eq ↔ a.number.exact = b.number.exact := by
  rw [MetricNumber.compare_of_proper a.proper b.proper, Option.some_inj, compare_eq_iff_eq]

variable (a b c)

theorem compare_exact_total :
    a.number.compare b.number = some (Ord.compare a.number.exact b.number.exact) ∧
    (a.le b ∨ b.le a) ∧ (a.le b → b.le a → a.number.exact = b.number.exact) ∧
    (a.le b → b.le c → a.le c) ∧
    ∀ i j, a.number = .integer i → b.number = .integer j → i ≠ j →
      a.number.compare b.number ≠ some .eq ∧
        ¬(a.number.compare c.number = some .eq ∧ c.number.compare b.number = some .eq) := by
  simp only [le_iff]
  refine ⟨MetricNumber.compare_of_proper a.proper b.proper, le_total _ _, le_antisymm, le_trans, ?_⟩
  intro i j hi hj hne
  have hdistinct : a.number.exact ≠ b.number.exact := by
    rw [hi, hj]
    exact fun h => hne (Int.cast_injective h)
  constructor
  · exact fun h => hdistinct (compare_eq_eq_iff.mp h)
  · rintro ⟨hac, hcb⟩
    exact hdistinct ((compare_eq_eq_iff.mp hac).trans (compare_eq_eq_iff.mp hcb))

/-- Neighbours above `2 ^ 53`, one of them also as a double. -/
theorem compare_exact_total_large :
    let a : FiniteNumber := ⟨.integer 9007199254740993, by decide⟩
    let b : FiniteNumber := ⟨.integer 9007199254740992, by decide⟩
    let c : FiniteNumber := ⟨.float (.finite 9007199254740992), by decide⟩
    a.number.compare c.number = some .gt ∧ c.number.compare b.number = some .eq ∧
      a.number.compare b.number ≠ some .eq := by
  intro a b c
  exact ⟨by decide +kernel, by decide +kernel,
    ((compare_exact_total a b c).2.2.2.2 _ _ rfl rfl (by decide)).1⟩

end FiniteNumber

end Extrittio
