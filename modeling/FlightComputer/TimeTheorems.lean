import FlightComputer.Time
import FlightComputer.Utils.Wrapping

/-!
# What a time stamp says

A PSAS time is the reading of a 48-bit counter of nanoseconds that starts at `starttime`
(`fromPsasTime_toPsasTime`): the borrow `to_psas_time` leaves out is made up for by the
wrap-around of `uint64_t`. A statement on time stamps is then one on counters that wrap.
-/

namespace FlightComputer

/-- The instant a `timespec` denotes. -/
def Timespec.nanoseconds (ts : Timespec) : ℤ := ts.tvSec * 10 ^ 9 + ts.tvNsec

/-- The counter behind the time stamps wraps around after 78 hours. -/
def psasPeriod : ℕ := 2 ^ 48

/-- Cutting a number to six bytes and putting them together again. -/
theorem bytes_of_word (now : ℕ) :
    (((((now >>> 40 % 256) * 256 + now >>> 32 % 256) * 256 + now >>> 24 % 256) * 256
      + now >>> 16 % 256) * 256 + now >>> 8 % 256) * 256 + now % 256 = now % 2 ^ 48 := by
  simp only [Nat.shiftRight_eq_div_pow]
  omega

/-- **What a time stamp says.** It is the time since the start on a counter of 48 bits. -/
theorem fromPsasTime_toPsasTime (starttime ts : Timespec) :
    fromPsasTime (toPsasTime starttime ts) =
      reading psasPeriod (ts.nanoseconds - starttime.nanoseconds) := by
  have hword : fromPsasTime (toPsasTime starttime ts) =
      ((ts.tvNsec - starttime.tvNsec + (ts.tvSec - starttime.tvSec) * 1000000000)
        % 2 ^ 64).toNat % 2 ^ 48 := by
    rw [fromPsasTime_eq, ← bytes_of_word]
    simp only [toPsasTime, Vector.get, Fin.isValue]
    rfl
  rw [hword]
  unfold reading psasPeriod Timespec.nanoseconds
  omega

/-- **Two time stamps.** The later of two instants less than a period apart is stamped with the
time between added, or with one period less if the counter wraps around. -/
theorem fromPsasTime_later (starttime : Timespec) {ts₁ ts₂ : Timespec}
    (hle : ts₁.nanoseconds ≤ ts₂.nanoseconds)
    (hlt : ts₂.nanoseconds - ts₁.nanoseconds < 2 ^ 48) :
    (fromPsasTime (toPsasTime starttime ts₁) : ℤ) =
        (ts₁.nanoseconds - starttime.nanoseconds) % 2 ^ 48 ∧
      ((fromPsasTime (toPsasTime starttime ts₁) + (ts₂.nanoseconds - ts₁.nanoseconds) < 2 ^ 48 ∧
          (fromPsasTime (toPsasTime starttime ts₂) : ℤ) =
            fromPsasTime (toPsasTime starttime ts₁) + (ts₂.nanoseconds - ts₁.nanoseconds)) ∨
        (2 ^ 48 ≤ fromPsasTime (toPsasTime starttime ts₁) + (ts₂.nanoseconds - ts₁.nanoseconds) ∧
          (fromPsasTime (toPsasTime starttime ts₂) : ℤ) =
            fromPsasTime (toPsasTime starttime ts₁) + (ts₂.nanoseconds - ts₁.nanoseconds)
              - 2 ^ 48)) := by
  have hperiod : (psasPeriod : ℤ) = 2 ^ 48 := by norm_num [psasPeriod]
  have helapsed : ts₂.nanoseconds - starttime.nanoseconds = ts₁.nanoseconds -
      starttime.nanoseconds + (ts₂.nanoseconds - ts₁.nanoseconds) := by ring
  have hstart := cast_reading (M := psasPeriod) (by norm_num [psasPeriod])
    (ts₁.nanoseconds - starttime.nanoseconds)
  have hadd := reading_add (M := psasPeriod) (t := ts₁.nanoseconds - starttime.nanoseconds)
    (d := ts₂.nanoseconds - ts₁.nanoseconds) (by omega) (by omega)
  rw [hperiod] at hstart hadd
  rw [fromPsasTime_toPsasTime, fromPsasTime_toPsasTime, helapsed]
  exact ⟨hstart, hadd⟩

end FlightComputer
