import FlightComputer.Messages
import Mathlib.Tactic.NormNum

/-!
# `utils_time`: the PSAS time format

Six bytes, most significant first, that hold the low 48 bits of the nanoseconds since
`starttime`. The arithmetic is that of `uint64_t`.
-/

namespace FlightComputer

/-- `struct timespec` -/
structure Timespec where
  tvSec : ℤ
  tvNsec : ℤ
deriving DecidableEq, Repr

/-- `to_psas_time`. The seconds and the nanoseconds are subtracted apart, without a borrow. -/
def toPsasTime (starttime ts : Timespec) : Timestamp :=
  let tvSec := ts.tvSec - starttime.tvSec
  let tvNsec := ts.tvNsec - starttime.tvNsec
  let now := ((tvNsec + tvSec * 1000000000) % 2 ^ 64).toNat
  #v[UInt8.ofNat (now >>> 40), UInt8.ofNat (now >>> 32), UInt8.ofNat (now >>> 24),
    UInt8.ofNat (now >>> 16), UInt8.ofNat (now >>> 8), UInt8.ofNat now]

/-- `from_psas_time`: nanoseconds, for comparison purposes. -/
def fromPsasTime (ts : Timestamp) : ℕ :=
  let time := (ts.get 0).toNat
  let time := (time <<< 8) ||| (ts.get 1).toNat
  let time := (time <<< 8) ||| (ts.get 2).toNat
  let time := (time <<< 8) ||| (ts.get 3).toNat
  let time := (time <<< 8) ||| (ts.get 4).toNat
  (time <<< 8) ||| (ts.get 5).toNat

/-! ### In words

Both functions as the code computes them, in words of 64 bits. A signed difference that
overflows wraps here; that of two readings of a clock never does. -/

/-- `struct timespec`, with a `time_t` and a `long` of 64 bits. -/
structure Timespec64 where
  tvSec : Int64
  tvNsec : Int64
deriving DecidableEq

/-- `to_psas_time` -/
def toPsasTime64 (starttime ts : Timespec64) : Timestamp :=
  let tvSec := ts.tvSec - starttime.tvSec
  let tvNsec := ts.tvNsec - starttime.tvNsec
  let now := tvNsec.toUInt64 + tvSec.toUInt64 * 1000000000
  #v[(now >>> 40).toUInt8, (now >>> 32).toUInt8, (now >>> 24).toUInt8, (now >>> 16).toUInt8,
    (now >>> 8).toUInt8, now.toUInt8]

/-- `from_psas_time` -/
def fromPsasTime64 (ts : Timestamp) : UInt64 :=
  let time := (ts.get 0).toUInt64
  let time := (time <<< 8) ||| (ts.get 1).toUInt64
  let time := (time <<< 8) ||| (ts.get 2).toUInt64
  let time := (time <<< 8) ||| (ts.get 3).toUInt64
  let time := (time <<< 8) ||| (ts.get 4).toUInt64
  (time <<< 8) ||| (ts.get 5).toUInt64

/-! ## Clocks -/

/-- What `clock_gettime(CLOCK_MONOTONIC)` writes at an instant, in nanoseconds. -/
def clockMonotonic (u : ℤ) : Timespec := { tvSec := u / 10 ^ 9, tvNsec := u % 10 ^ 9 }

/-- `CLOCK_REALTIME`, which is ahead of it, and which `SO_TIMESTAMPNS` reports. -/
def clockRealtime (offset u : ℤ) : Timespec := clockMonotonic (u + offset)

/-- `utils_time_init` -/
def utilsTimeInit (u : ℤ) : Timespec := clockMonotonic u

/-- `get_psas_time` -/
def getPsasTime (starttime : Timespec) (u : ℤ) : Timestamp :=
  toPsasTime starttime (clockMonotonic u)

/-! ## The range of a time stamp -/

/-- Shifting a byte in is one step of reading in base 256. -/
theorem shift_or_byte (time : ℕ) (b : UInt8) : (time <<< 8) ||| b.toNat = time * 256 + b.toNat := by
  rw [← Nat.shiftLeft_add_eq_or_of_lt (by simpa using b.toNat_lt), Nat.shiftLeft_eq]

theorem fromPsasTime_eq (ts : Timestamp) :
    fromPsasTime ts = (((((ts.get 0).toNat * 256 + (ts.get 1).toNat) * 256 + (ts.get 2).toNat) * 256
      + (ts.get 3).toNat) * 256 + (ts.get 4).toNat) * 256 + (ts.get 5).toNat := by
  simp only [fromPsasTime, shift_or_byte]

/-- A PSAS time is a 48-bit number. -/
theorem fromPsasTime_lt (ts : Timestamp) : fromPsasTime ts < 2 ^ 48 := by
  have h0 := (ts.get 0).toNat_lt
  have h1 := (ts.get 1).toNat_lt
  have h2 := (ts.get 2).toNat_lt
  have h3 := (ts.get 3).toNat_lt
  have h4 := (ts.get 4).toNat_lt
  have h5 := (ts.get 5).toNat_lt
  rw [fromPsasTime_eq]
  omega

end FlightComputer
