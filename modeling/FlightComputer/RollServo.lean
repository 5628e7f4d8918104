import FlightComputer.RollControl
import Mathlib.Algebra.Order.Floor.Defs

/-!
# `devices/rollservo.c`: from an angle to the pulse of the servo

The pulse is counted in ticks. The constants are integers of C, so their quotients are
truncated; slope and intercept are `double`s, and the ticks are converted to `uint16_t` before
they are clamped.
-/

namespace FlightComputer
namespace RollServo

open RollControl

/-! ## Constants -/

def PWM_TICKS_MAX : ℕ := 56000
def PWM_US_MAX : ℕ := 3333

def MAX_SERVO_POSITION_US : ℕ := 1900
def MIN_SERVO_POSITION_US : ℕ := 1100

def MAX_SERVO_POSITION_TICKS : ℕ := MAX_SERVO_POSITION_US * PWM_TICKS_MAX / PWM_US_MAX
def MIN_SERVO_POSITION_TICKS : ℕ := MIN_SERVO_POSITION_US * PWM_TICKS_MAX / PWM_US_MAX

variable {K : Type} [Field K] [LinearOrder K]

/-- Slope -/
def PWM_TICKS_PER_DEGREE : K :=
  ((MAX_SERVO_POSITION_TICKS : ℤ) - MIN_SERVO_POSITION_TICKS : ℤ) /
    (MAX_CANARD_ANGLE - MIN_CANARD_ANGLE)

/-- Intercept -/
def PWM_TICKS_CENTER : K :=
  MIN_SERVO_POSITION_TICKS - PWM_TICKS_PER_DEGREE * MIN_CANARD_ANGLE

/-! ## Ticks -/

variable [FloorSemiring K]

/-- A `double` converted to `uint16_t`. The fraction is dropped; it is not defined what a number
out of range is converted to. -/
def uint16OfDouble (x : K) : Option UInt16 :=
  if -1 < x ∧ x < 65536 then some (.ofNat ⌊x⌋₊) else none

/-- `ticks` -/
def ticks (adj : ROLLMessage K) : Option UInt16 := do
  let ticks ← uint16OfDouble (PWM_TICKS_PER_DEGREE * adj.data.angle + PWM_TICKS_CENTER)
  return .ofNat (clamp ticks.toNat MIN_SERVO_POSITION_TICKS MAX_SERVO_POSITION_TICKS)

/-- `rs_receive_adj`: the next value of `seq`, and the bytes written to the servo. -/
def rsReceiveAdj (adj : ROLLMessage K) (seq : UInt32) : Option (UInt32 × Bytes) := do
  let ticks ← ticks adj
  return (seq + 1,
    [(seq >>> 24).toUInt8, (seq >>> 16).toUInt8, (seq >>> 8).toUInt8, seq.toUInt8,
      (ticks >>> 8).toUInt8, ticks.toUInt8, adj.data.disable])

/-! ## The module as a machine -/

/-- A call, and the `write` it makes: what is written is not defined if the ticks are not. -/
def step (seq : UInt32) (adj : ROLLMessage K) : UInt32 × List (Option Bytes) :=
  match rsReceiveAdj adj seq with
  | some (seq, data) => (seq, [some data])
  | none => (seq + 1, [none])

/-- `rollservo.c` with the static `seq` at 0. -/
def machine : Machine UInt32 (ROLLMessage K) (Option Bytes) where
  init := 0
  step := step

end RollServo
end FlightComputer
