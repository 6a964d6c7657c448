import Extrittio.Analytics.Exact

/-!
The hours that rollups may answer for. The window of a query is the largest
interval of full hours inside its range that ends before the current hour.
-/
namespace Extrittio

open Option

/-- The microsecond counts that a `NaiveDateTime` has. -/
def Representable (micros : ℤ) : Prop := inDateRange (datetime micros) = true

instance (micros : ℤ) : Decidable (Representable micros) :=
  inferInstanceAs (Decidable (inDateRange (datetime micros) = true))

theorem representable_iff {micros : ℤ} :
    Representable micros ↔ -8334601228800000000 ≤ micros ∧ micros < 8210266876800000000 := by
  unfold Representable inDateRange datetime
  rw [decide_eq_true_iff]
  omega

theorem fromTimestampMicros_of_representable {micros : ℤ} (h : Representable micros) :
    fromTimestampMicros micros = some (datetime micros) := if_pos h

/-- The first full hour that does not start before an instant. -/
def hourCeiling (micros : ℤ) : ℤ :=
  (micros / hourMicros + if micros % hourMicros ≠ 0 then 1 else 0) * hourMicros

theorem dvd_hourCeiling (micros : ℤ) : hourMicros ∣ hourCeiling micros := dvd_mul_left _ _

theorem hourCeiling_lt (micros : ℤ) : hourCeiling micros < micros + hourMicros := by
  unfold hourCeiling hourMicros
  split_ifs <;> omega

theorem hourCeiling_le_iff {micros bound : ℤ} (h : hourMicros ∣ bound) :
    hourCeiling micros ≤ bound ↔ micros ≤ bound := by
  obtain ⟨hours, rfl⟩ := h
  unfold hourCeiling hourMicros
  split_ifs <;> omega

/-- Between representable instants no check of the window fails. -/
theorem fullHourRollupWindow_eq {start stop now : ℤ} (hstart : Representable start)
    (hstop : Representable stop) (hnow : Representable now) :
    fullHourRollupWindow (datetime start) (datetime stop) (datetime now) =
      if hourCeiling start < hourStart (min stop now) then
        some (datetime (hourCeiling start), datetime (hourStart (min stop now)))
      else none := by
  have hend : Representable (min stop now) := by
    rcases min_choice stop now with h | h <;> rwa [h]
  obtain ⟨hlow, hhigh⟩ := representable_iff.mp hstart
  obtain ⟨hlowEnd, hhighEnd⟩ := representable_iff.mp hend
  have hchecked (value : ℤ) (hmin : -9223372036854775808 ≤ value)
      (hmax : value ≤ 9223372036854775807) : checkedI64 value = some value :=
    if_pos ⟨hmin, hmax⟩
  have hceiling := hourCeiling_lt start
  have hle := (hourCeiling_le_iff (dvd_hourCeiling start)).mp le_rfl
  have hfloor : min stop now - hourMicros < hourStart (min stop now) ∧
      hourStart (min stop now) ≤ min stop now := by
    unfold hourStart hourMicros
    omega
  simp only [hourMicros] at hceiling hfloor
  simp only [fullHourRollupWindow, timestampMicros_datetime, bind_eq_bind]
  rw [hchecked _ (by unfold hourMicros; split_ifs <;> omega)
    (by unfold hourMicros; split_ifs <;> omega), bind_some]
  change (checkedI64 (hourCeiling start)).bind _ = _
  rw [hchecked _ (by omega) (by omega), bind_some]
  change (checkedI64 (hourStart (min stop now))).bind _ = _
  rw [hchecked _ (by omega) (by omega), bind_some]
  by_cases hlt : hourCeiling start < hourStart (min stop now)
  · have hfirst : Representable (hourCeiling start) := representable_iff.mpr (by omega)
    have hlast : Representable (hourStart (min stop now)) := representable_iff.mpr (by omega)
    rw [if_neg (not_le.mpr hlt), if_pos hlt, fromTimestampMicros_of_representable hfirst,
      bind_some, fromTimestampMicros_of_representable hlast]
    rfl
  · rw [if_pos (not_lt.mp hlt), if_neg hlt]

/-- The ends of a window are those of the largest one, whatever the signs of the instants;
there is no window exactly if no full hour fits. -/
theorem fullHourRollupWindow_largest {start stop now : ℤ} (hstart : Representable start)
    (hstop : Representable stop) (hnow : Representable now) :
    (∀ fullStart fullEnd, fullHourRollupWindow (datetime start) (datetime stop) (datetime now) =
        some (fullStart, fullEnd) →
      ∃ first last, fullStart = datetime first ∧ fullEnd = datetime last ∧
        IsWindow start (min stop now) first last ∧
        ∀ first' last', IsWindow start (min stop now) first' last' → first ≤ first' ∧ last' ≤ last) ∧
    (fullHourRollupWindow (datetime start) (datetime stop) (datetime now) = none ↔
      ¬∃ hour, start ≤ hour * hourMicros ∧ (hour + 1) * hourMicros ≤ min stop now) := by
  rw [fullHourRollupWindow_eq hstart hstop hnow]
  have hceiling (bound : ℤ) (h : hourMicros ∣ bound) : hourCeiling start ≤ bound ↔ start ≤ bound :=
    hourCeiling_le_iff h
  have hfloor (bound : ℤ) (h : hourMicros ∣ bound) :
      bound ≤ hourStart (min stop now) ↔ bound ≤ min stop now := le_hourStart_iff h
  constructor
  · intro fullStart fullEnd h
    split_ifs at h with hlt
    cases h
    refine ⟨_, _, rfl, rfl, ⟨dvd_hourCeiling start, dvd_mul_left _ _, ?_, hlt, ?_⟩, ?_⟩
    · exact (hceiling _ (dvd_hourCeiling start)).mp le_rfl
    · exact (hfloor _ (dvd_mul_left _ _)).mp le_rfl
    · intro first' last' hwindow
      exact ⟨(hceiling _ hwindow.first_dvd).mpr hwindow.start_le,
        (hfloor _ hwindow.last_dvd).mpr hwindow.le_stop⟩
  · constructor
    · rintro h ⟨hour, hfirst, hlast⟩
      split_ifs at h with hlt
      have hbefore := (hceiling _ (dvd_mul_left _ _)).mpr hfirst
      have hafter := (hfloor _ (dvd_mul_left _ _)).mpr hlast
      simp only [hourMicros] at hbefore hafter
      omega
    · intro h
      refine if_neg fun hlt => h ?_
      -- an hour that starts at the first boundary ends by the last one
      obtain ⟨hour, hhour⟩ := dvd_hourCeiling start
      obtain ⟨lastHour, hlastHour⟩ : hourMicros ∣ hourStart (min stop now) := dvd_mul_left _ _
      refine ⟨hour, (hceiling _ (dvd_mul_left _ _)).mp ?_, (hfloor _ (dvd_mul_left _ _)).mp ?_⟩
      · rw [hhour, mul_comm]
      · rw [hhour, hlastHour] at hlt
        rw [hlastHour]
        simp only [hourMicros] at hlt ⊢
        omega

theorem fullHourRollupWindow_largest_before_epoch :
    Representable (-5400000000) ∧ Representable 9000000000 ∧ Representable 4000000000 ∧
    ∃ first last, datetime (-3600000000) = datetime first ∧ datetime 3600000000 = datetime last ∧
      IsWindow (-5400000000) (min 9000000000 4000000000) first last ∧
      ∀ first' last', IsWindow (-5400000000) (min 9000000000 4000000000) first' last' →
        first ≤ first' ∧ last' ≤ last :=
  ⟨by decide, by decide, by decide,
    (fullHourRollupWindow_largest (by decide) (by decide) (by decide)).1 _ _ (by decide)⟩

end Extrittio
