import Mathlib.Algebra.Order.Group.Int

/-!
# Counters that wrap around

A counter of finitely many values shows the time modulo their number. `reading M t` is what
it shows at the time `t`. From the readings at two times less than a period apart one can
tell the time between them only up to a wrap-around: `reading_add` is the alternative.
-/

namespace FlightComputer

/-- What a counter modulo `M` shows at the time `t`. -/
def reading (M : ℕ) (t : ℤ) : ℕ := (t % M).toNat

variable {M : ℕ}

theorem cast_reading (hM : 0 < M) (t : ℤ) : (reading M t : ℤ) = t % M := by
  have hne : (M : ℤ) ≠ 0 := by omega
  have hnonneg := Int.emod_nonneg t hne
  rw [reading, Int.toNat_of_nonneg hnonneg]

theorem reading_lt (hM : 0 < M) (t : ℤ) : reading M t < M := by
  have hpos : (0 : ℤ) < M := by omega
  have hlt := Int.emod_lt_of_pos t hpos
  have hcast := cast_reading hM t
  omega

/-- Within the first period, the counter shows the time itself. -/
theorem reading_of_lt {t : ℤ} (h0 : 0 ≤ t) (hlt : t < M) : (reading M t : ℤ) = t := by
  have hM : 0 < M := by omega
  rw [cast_reading hM, Int.emod_eq_of_lt h0 hlt]

/-- Less than a period later the counter shows the time between, or one period less. -/
theorem reading_add {t d : ℤ} (h0 : 0 ≤ d) (hd : d < M) :
    (reading M t + d < M ∧ (reading M (t + d) : ℤ) = reading M t + d) ∨
      (M ≤ reading M t + d ∧ (reading M (t + d) : ℤ) = reading M t + d - M) := by
  have hM : 0 < M := by omega
  have hlt := reading_lt hM t
  have hsum : (reading M (t + d) : ℤ) = (reading M t + d) % M := by
    rw [cast_reading hM, cast_reading hM, Int.emod_add_emod]
  by_cases hwrap : reading M t + d < M
  · left
    have hself := Int.emod_eq_of_lt (by omega : 0 ≤ (reading M t : ℤ) + d) hwrap
    omega
  · right
    have hback : ((reading M t : ℤ) + d) % M = ((reading M t : ℤ) + d - M) % M :=
      (Int.sub_emod_right _ _).symm
    have hlow : (reading M t : ℤ) + d - M < M := by omega
    have hself := Int.emod_eq_of_lt (by omega : 0 ≤ (reading M t : ℤ) + d - M) hlow
    omega

/-- Two counters show the same exactly when they are whole periods apart. -/
theorem reading_add_eq_iff (hM : 0 < M) (t offset : ℤ) :
    reading M (t + offset) = reading M t ↔ (M : ℤ) ∣ offset := by
  have hcast : reading M (t + offset) = reading M t ↔ (t + offset) % M = t % M := by
    rw [← cast_reading hM, ← cast_reading hM, Int.natCast_inj]
  rw [hcast, Int.emod_eq_emod_iff_emod_sub_eq_zero, add_sub_cancel_left,
    Int.dvd_iff_emod_eq_zero]

end FlightComputer
