import FlightComputer.Time
import FlightComputer.Utils.Machine
import Mathlib.Algebra.Order.Field.Basic
import Mathlib.Data.NNRat.Defs

/-!
# `rollcontrol.c`: from sensor data to roll fin positions

The servo is on while `enableServo` is set. Four handlers write that flag: the arm signal,
the test commands, the umbilical report (through the deadline it sets) and the state message
(which checks the deadline before it runs the PID controller).

The `double` arithmetic is exact arithmetic in an ordered field `K`, with the functions of
`math.h` as parameters. A handler that may read the clock takes what `get_psas_time` would
write as its argument `clock`; no handler reads it twice.
-/

namespace FlightComputer

/-- The functions of `math.h` the control law calls, and `M_PI`. -/
structure Libm (K : Type) where
  exp : K → K
  sqrt : K → K
  M_PI : K

namespace RollControl

variable {K : Type} [Field K] [LinearOrder K]

/-! ## Constants -/

def Kp : K := 5.0
def Ki : K := 0.01
def Kd : K := 0
def pidTarget : K := 0
def integrator_max : K := 100 / Ki
def integrator_min : K := -100 / Ki

def FINFIT_A : K := 0.0006
def FINFIT_B : K := 0.045
def FIN_CBASE : K := 3.2
def FIN_AREA : K := 1.13e-3
def FIN_ARM : K := 0.085
def I_INIT : K := 0.086
def I_BO : K := 0.077
def EXPECTED_BURN_TIME : K := 5.7
def SUBSONIC : K := 265
def SUPERSONIC : K := 330

def MAX_CANARD_ANGLE : K := 15.0
def MIN_CANARD_ANGLE : K := -15.0

/-- Two minutes in nanoseconds. -/
def TIMEOUT : ℕ := 120 * 1000000000

/-! ## State and calls -/

/-- The globals of `rollcontrol.c`. -/
structure State (K : Type) where
  lastError : K
  integrator : K
  enableServo : Bool
  armed : Bool
  launched : Bool
  timeout : ℕ
deriving DecidableEq, Repr

/-- The calls out of `rollcontrol.c`. -/
inductive Output (K : Type) where
  /-- `rc_send_servo(&out)` -/
  | rcSendServo (out : ROLLMessage K)
  /-- `send_servo_response(message)`: a reply to the sender of a test command -/
  | sendServoResponse (message : String)
deriving DecidableEq, Repr

def setServoEnable (enable : Bool) (s : State K) : State K := { s with enableServo := enable }

def setArmed (arm : Bool) (s : State K) : State K := setServoEnable arm { s with armed := arm }

/-- The zeroed globals, after `rollcontrol_init`. -/
def rollcontrolInit : State K :=
  setArmed false
    { lastError := 0, integrator := 0, enableServo := false, armed := false, launched := false,
      timeout := 0 }

def setCanardAngle (clock : Timestamp) (degrees : K) (s : State K) : List (Output K) :=
  [.rcSendServo
    { ID := messageID 'R' 'O' 'L' 'L'
      timestamp := clock
      dataLength := .ofNat sizeofRollServoData
      data :=
        { angle := clamp degrees MIN_CANARD_ANGLE MAX_CANARD_ANGLE
          disable := (!s.enableServo).toUInt8 } }]

/-! ## The control law -/

def degreesToRadians (libm : Libm K) (angleDegrees : K) : K := angleDegrees * libm.M_PI / 180.0

def radiansToDegrees (libm : Libm K) (angleRadians : K) : K := angleRadians * 180.0 / libm.M_PI

/-- Subsonic fin estimation -/
def subsonicFin (libm : Libm K) (setAaRad I rd : K) (state : StateData K) : K :=
  let v := state.velUp
  let alpha := libm.sqrt (|2 * setAaRad * I * FINFIT_A| / (rd * v * v * FIN_AREA * FIN_ARM)
    + FINFIT_B * FINFIT_B) - FINFIT_B
  alpha / (2 * FINFIT_A)

/-- Supersonic fin estimation -/
def supersonicFin (libm : Libm K) (setAaRad I rd : K) (state : StateData K) : K :=
  let v := state.velUp
  let alpha := (setAaRad * I) / (2 * rd * v * v * FIN_AREA * FIN_ARM * FIN_CBASE)
  radiansToDegrees libm alpha

/-- Given a correction from the control system, estimate the angle of attack for the canard. -/
def estimateAlpha (libm : Libm K) (setAa : K) (state : StateData K) : K :=
  let velocity := state.velUp
  let time := state.time
  -- obvious cases (and avoid divide by 0)
  if |setAa| < 1 ∨ velocity < 1 then 0
  else
    let aa := |degreesToRadians libm setAa|
    let I := if time < EXPECTED_BURN_TIME then
        I_INIT + (I_BO - I_INIT) * (time / EXPECTED_BURN_TIME)
      else I_BO
    let rd := 1.2250 * libm.exp ((-9.80665 * 0.0289644 * state.altitude) / (8.31432 * 288.15))
    let output :=
      if velocity ≤ SUBSONIC then subsonicFin libm aa I rd state
      else if velocity < SUPERSONIC then
        let y0 := subsonicFin libm aa I rd state
        let y1 := supersonicFin libm aa I rd state
        y0 + (y1 - y0) * (velocity - SUBSONIC) / (SUPERSONIC - SUBSONIC)
      else supersonicFin libm aa I rd state
    if setAa < 0 then -output else output

/-- The PID controller of `rc_receive_state`: the correction, and the terms it remembers. -/
def pidController (state : StateData K) (s : State K) : K × State K :=
  let error := pidTarget - state.rollRate
  let proportional := Kp * error
  let integral := Ki * s.integrator
  let derivative := Kd * (error - s.lastError)
  let correction := proportional + integral + derivative
  let integrator := s.integrator + error
  let integrator := if integrator > integrator_max then integrator_max
    else if integrator < integrator_min then integrator_min
    else integrator
  (correction, { s with lastError := error, integrator := integrator })

/-! ## The control law with its divisions checked

`estimate_alpha` once more, part by part, without a value where a divisor is 0. -/

/-- A division, which has no value if the divisor is 0. -/
def checkedDiv (a b : K) : Option K := if b = 0 then none else some (a / b)

def subsonicFinChecked (libm : Libm K) (setAaRad I rd : K) (state : StateData K) : Option K := do
  let v := state.velUp
  let lift ← checkedDiv |2 * setAaRad * I * FINFIT_A| (rd * v * v * FIN_AREA * FIN_ARM)
  let alpha := libm.sqrt (lift + FINFIT_B * FINFIT_B) - FINFIT_B
  checkedDiv alpha (2 * FINFIT_A)

def supersonicFinChecked (libm : Libm K) (setAaRad I rd : K) (state : StateData K) : Option K := do
  let v := state.velUp
  let alpha ← checkedDiv (setAaRad * I) (2 * rd * v * v * FIN_AREA * FIN_ARM * FIN_CBASE)
  checkedDiv (alpha * 180.0) libm.M_PI

/-- The moment of inertia. -/
def inertiaChecked (time : K) : Option K :=
  if time < EXPECTED_BURN_TIME then do
    let burnt ← checkedDiv time EXPECTED_BURN_TIME
    return I_INIT + (I_BO - I_INIT) * burnt
  else some I_BO

/-- The density of the air. -/
def airDensityChecked (libm : Libm K) (altitude : K) : Option K := do
  let exponent ← checkedDiv (-9.80665 * 0.0289644 * altitude) (8.31432 * 288.15)
  return 1.2250 * libm.exp exponent

/-- Subsonic, transonic, and supersonic cases -/
def finAngleChecked (libm : Libm K) (aa I rd : K) (state : StateData K) : Option K :=
  let velocity := state.velUp
  if velocity ≤ SUBSONIC then subsonicFinChecked libm aa I rd state
  else if velocity < SUPERSONIC then do
    let y0 ← subsonicFinChecked libm aa I rd state
    let y1 ← supersonicFinChecked libm aa I rd state
    let rise ← checkedDiv ((y1 - y0) * (velocity - SUBSONIC)) (SUPERSONIC - SUBSONIC)
    return y0 + rise
  else supersonicFinChecked libm aa I rd state

def estimateAlphaChecked (libm : Libm K) (setAa : K) (state : StateData K) : Option K :=
  if |setAa| < 1 ∨ state.velUp < 1 then some 0
  else do
    let radians ← checkedDiv (setAa * libm.M_PI) 180.0
    let I ← inertiaChecked state.time
    let rd ← airDensityChecked libm state.altitude
    let output ← finAngleChecked libm |radians| I rd state
    return if setAa < 0 then -output else output

/-! ## Handlers -/

/-- The RocketNet hub reports the umbilical; a disconnect is taken as launch. -/
def rcRawUmb (ID : MessageID) (timestamp : Timestamp) (data : Bytes) (s : State K) : State K :=
  if ID ≠ messageID 'R' 'N' 'H' 'U' then s
  else
    let umb := RNHUmbdet.ofMem data
    let s := if !s.launched && umb.detect = 0 then
        { s with timeout := (fromPsasTime timestamp + TIMEOUT) % 2 ^ 64 }
      else s
    { s with launched := umb.detect = 0 }

def checkTimeout (clock timestamp : Timestamp) (s : State K) : State K × List (Output K) :=
  if !s.launched || !s.enableServo then (s, [])
  else if fromPsasTime timestamp > s.timeout then
    let s := setServoEnable false s
    (s, setCanardAngle clock 0 s)
  else (s, [])

def rcReceiveState (libm : Libm K) (clock : Timestamp) (ID : MessageID) (timestamp : Timestamp)
    (state : StateData K) (s : State K) : State K × List (Output K) :=
  let r := checkTimeout clock timestamp s
  if !r.1.enableServo then r
  else if ID ≠ messageID 'V' 'S' 'T' 'E' then r
  else
    let pid := pidController state r.1
    let output := estimateAlpha libm pid.1 state
    (pid.2, r.2 ++ setCanardAngle clock output pid.2)

def rcReceiveArm (clock : Timestamp) (signal : String) (s : State K) :
    State K × List (Output K) :=
  if signal = "ARM" then (setArmed true s, [])
  else if signal = "SAFE" then
    let s := setArmed false s
    (s, setCanardAngle clock 0 s)
  else (s, [])

def rcRawTestrc (clock : Timestamp) (data : Bytes) (s : State K) : State K × List (Output K) :=
  if !s.armed then
    if compareBufferToCmd data "ENABLE" then
      (setServoEnable true s, [.sendServoResponse "Roll control servos enabled"])
    else if compareBufferToCmd data "DISABLE" then
      let s := setServoEnable false s
      (s, setCanardAngle clock 0 s ++ [.sendServoResponse "Roll control servos disabled"])
    else (s, [.sendServoResponse "Unknown servo command"])
  else
    (s, [.sendServoResponse "Roll control servos state not changed due to being armed"])

/-! ## The module as a machine -/

/-- The calls into `rollcontrol.c`. -/
inductive Event (K : Type) where
  | rcReceiveArm (clock : Timestamp) (signal : String)
  | rcRawTestrc (clock : Timestamp) (data : Bytes)
  | rcRawUmb (ID : MessageID) (timestamp : Timestamp) (data : Bytes)
  | rcReceiveState (clock : Timestamp) (ID : MessageID) (timestamp : Timestamp)
      (state : StateData K)
deriving DecidableEq, Repr

def step (libm : Libm K) (s : State K) : Event K → State K × List (Output K)
  | .rcReceiveArm clock signal => rcReceiveArm clock signal s
  | .rcRawTestrc clock data => rcRawTestrc clock data s
  | .rcRawUmb ID timestamp data => (rcRawUmb ID timestamp data s, [])
  | .rcReceiveState clock ID timestamp state => rcReceiveState libm clock ID timestamp state s

/-- `rollcontrol.c` from `rollcontrol_init` on. -/
def machine (libm : Libm K) : Machine (State K) (Event K) (Output K) where
  init := rollcontrolInit
  step := step libm

end RollControl
end FlightComputer
