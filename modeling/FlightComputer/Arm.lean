import FlightComputer.Messages
import FlightComputer.Utils.Machine
import Mathlib.Algebra.Order.Field.Rat
import Mathlib.Data.Rat.Cast.Defs

/-!
# `arm.c`: the ARM Rocket Manager

Arming takes a command, and, unless the sensor lock is overridden, a rocket that has stood
upright for 100 IMU samples and a GPS with a 3D fix. The tests on the acceleration are in
exact arithmetic.
-/

namespace FlightComputer
namespace Arm

/-! ## State and calls -/

/-- The globals of `arm.c`. -/
structure State where
  slockEnable : Bool
  gpsLocked : Bool
  upright : ℕ
deriving DecidableEq, Repr

/-- The calls out of `arm.c`. -/
inductive Output where
  /-- `arm_send_signal(code)` -/
  | armSendSignal (code : String)
  /-- `send_arm_response(message)`: a reply to the sender of a command -/
  | sendArmResponse (message : String)
deriving DecidableEq, Repr

/-- The zeroed globals, after `arm_init`. -/
def armInit : State := { slockEnable := true, gpsLocked := false, upright := 0 }

/-! ## Sensors -/

def ACCEL_NOISE_BOUND : ℚ := 0.1

def about (a b : ℚ) : Prop := |a - b| < ACCEL_NOISE_BOUND

instance (a b : ℚ) : Decidable (about a b) := inferInstanceAs (Decidable (_ < _))

/-- An acceleration in g: 3.3mg per bit. -/
def accel (raw : BitVec 16) : ℚ := raw.toInt * 0.00333

/-- Does the acceleration vector equal -1g over the last 100 samples? -/
def armReceiveImu (m : Message) (s : State) : State :=
  let data := ADIS16405Data.ofMem m.data
  let x := accel data.accX
  let y := accel data.accY
  let z := accel data.accZ
  if ¬about x (-1) ∨ ¬about y 0 ∨ ¬about z 0 then { s with upright := 0 }
  else if s.upright < 100 then { s with upright := s.upright + 1 }
  else s

def VENUS_A8_FIX_MODE_3D : UInt8 := 2

/-- Receive data from the COTS GPS to determine fix status. -/
def armReceiveGps (m : Message) (s : State) : State :=
  -- we only care about one Venus message type; ignore all others
  if messageID 'V' '8' 'A' '8' ≠ m.ID then s
  else
    let fixdata := Venus8NavigationData.ofMem m.data
    -- we must at least have a 3D fix
    if fixdata.fixMode ≥ VENUS_A8_FIX_MODE_3D then { s with gpsLocked := true }
    else { s with gpsLocked := false }

/-! ## Commands -/

/-- The commands of `arm_raw_in`. -/
inductive Command where
  /-- `#YOLO` - (You Only Launch Once) Arm the rocket for launch -/
  | arm
  /-- `#SAFE` - Disarm the rocket (default) -/
  | safe
  /-- `EN_SLOCK` - Enable sensors lock required to arm (default) -/
  | enSlock
  /-- `DI_SLOCK` - Disable sensors lock required to arm -/
  | diSlock
  | unknown
deriving DecidableEq, Repr

/-- The chain of comparisons in `arm_raw_in`. -/
def recognise (buffer : Bytes) : Command :=
  if compareBufferToCmd buffer "#YOLO" then .arm
  else if compareBufferToCmd buffer "#SAFE" then .safe
  else if compareBufferToCmd buffer "EN_SLOCK" then .enSlock
  else if compareBufferToCmd buffer "DI_SLOCK" then .diSlock
  else .unknown

def armRawIn (buffer : Bytes) (s : State) : State × List Output :=
  match recognise buffer with
  | .arm =>
    let accelLocked := s.upright = 100
    let sensorsAllowLaunch := (s.gpsLocked ∧ accelLocked) ∨ ¬s.slockEnable
    if sensorsAllowLaunch then
      (s, [.armSendSignal "ARM", .sendArmResponse "successful ARM"])
    else (s, [.sendArmResponse "ARM failed due to sensor lock"])
  | .safe => (s, [.armSendSignal "SAFE", .sendArmResponse "successful SAFE"])
  | .enSlock => ({ s with slockEnable := true }, [.sendArmResponse "successful EN_SLOCK"])
  | .diSlock => ({ s with slockEnable := false }, [.sendArmResponse "Sensor Lock Overridden"])
  | .unknown => (s, [.sendArmResponse "UNKNOWN COMMAND"])

/-! ## The module as a machine -/

/-- The calls into `arm.c`. -/
inductive Event where
  | armReceiveImu (m : Message)
  | armReceiveGps (m : Message)
  | armRawIn (buffer : Bytes)
deriving DecidableEq, Repr

def step (s : State) : Event → State × List Output
  | .armReceiveImu m => (armReceiveImu m s, [])
  | .armReceiveGps m => (armReceiveGps m s, [])
  | .armRawIn buffer => armRawIn buffer s

/-- `arm.c` from `arm_init` on. -/
def machine : Machine State Event Output where
  init := armInit
  step := step

end Arm
end FlightComputer
