import FlightComputer.Time
import FlightComputer.Utils.Machine
import Mathlib.Algebra.Order.Field.Basic
import Mathlib.Data.NNRat.Defs

/-!
# `state.c`: state estimation

Every IMU sample is sent on as a new estimate. From the first sample with a large
acceleration on, the estimate is the integral of the samples. The `double` arithmetic is
exact arithmetic in an ordered field `K`.
-/

namespace FlightComputer
namespace StateEstimation

variable {K : Type} [Field K] [LinearOrder K]

/-! ## Constants -/

def EARTHG : K := 9.80665
def ADIS_GLSB : K := 0.00333 * EARTHG
def ADIS_RLSB : K := 0.05
def LAUNCH_ALTITUDE : K := 1390.0

/-! ## State and calls -/

/-- The statics of `state.c`. -/
structure State (K : Type) where
  currentState : StateData K
  lastTime : ℕ
  hasLaunched : Bool
  launchTime : ℕ
deriving DecidableEq, Repr

/-- The call `state_send_message(ID, timestamp, sizeof(StateData), &data)`. -/
structure Output (K : Type) where
  ID : MessageID
  timestamp : Timestamp
  data : StateData K
deriving DecidableEq, Repr

/-- The zeroed statics, after `state_init`. -/
def stateInit : State K where
  currentState :=
    { time := 0, accUp := 0, velUp := 0, altitude := LAUNCH_ALTITUDE, rollRate := 0,
      rollAngle := 0 }
  lastTime := 0
  hasLaunched := false
  launchTime := 0

/-! ## Integration -/

/-- `(int16_t) ntohs(raw)` -/
def networkInt16 (raw : BitVec 16) : ℤ := (BitVec.ofNat 16 (ntohs raw.toNat)).toInt

/-- The difference of two `uint64_t` times in nanoseconds, in seconds. -/
def seconds (later earlier : ℕ) : K := ((later + 2 ^ 64 - earlier) % 2 ^ 64 : ℕ) / 1.0e9

/-- Receive data from the IMU, and integrate to a state estimation. -/
def stateReceiveImu (m : Message) (s : State K) : State K × List (Output K) :=
  let now := fromPsasTime m.timestamp
  let imu := ADIS16405Data.ofMem m.data
  -- convert raw IMU data to MKS/degrees unit system
  let accel : K := ADIS_GLSB * networkInt16 imu.accX
  let rollRate : K := ADIS_RLSB * networkInt16 imu.gyroX
  let s := if ¬s.hasLaunched ∧ |accel| > 40 then { s with hasLaunched := true, launchTime := now }
    else s
  let s := if s.lastTime = 0 then { s with lastTime := now } else s
  let s :=
    if s.hasLaunched then
      let dt : K := seconds now s.lastTime
      -- subtract gravity (the IMU is upside down)
      let accUp := accel - 9.81
      let velUp := s.currentState.velUp + accUp * dt
      let altitude := s.currentState.altitude + velUp * dt
      { s with
        currentState :=
          { time := seconds now s.launchTime
            accUp := accUp
            velUp := velUp
            altitude := altitude
            -- the sensor's frame is rotated by 180 degrees; the angle does not take that
            -- into account
            rollRate := -rollRate
            rollAngle := s.currentState.rollAngle + rollRate * dt } }
    else s
  ({ s with lastTime := now },
    [{ ID := messageID 'V' 'S' 'T' 'E'
       timestamp := m.timestamp
       data := s.currentState }])

/-- `state.c` from `state_init` on. -/
def machine : Machine (State K) Message (Output K) where
  init := stateInit
  step := fun s m => stateReceiveImu m s

end StateEstimation
end FlightComputer
