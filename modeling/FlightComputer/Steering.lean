import FlightComputer.RollControlTheorems
import FlightComputer.StateEstimation
import FlightComputer.LoggerTheorems

/-!
# What steers the fins

Of everything the flight computer hears, the IMU samples, the umbilical reports, the arm signals
and the test commands decide what the servo is told. `machine` is `state.c` in front of
`rollcontrol.c`, driven by these alone, with no clock: a reading of the clock only stamps the
ROLL message that is sent.

The first three are logged, so the log can be read back as events of this machine
(`Event.ofRecord`).
-/

namespace FlightComputer
namespace Steering

open Logger (Record)

variable {K : Type} [Field K] [LinearOrder K]

/-! ## Events -/

inductive Event where
  /-- to `state_receive_imu` -/
  | imu (timestamp : Timestamp) (data : Bytes)
  /-- to `rc_raw_umb` -/
  | umbilical (timestamp : Timestamp) (data : Bytes)
  /-- to `rc_receive_arm` -/
  | signal (code : String)
  /-- to `rc_raw_testrc` -/
  | testrc (data : Bytes)
deriving DecidableEq, Repr

/-- What a record of the log says. -/
def Event.ofRecord (r : Record) : Option Event :=
  if r.ID = messageID 'A' 'D' 'I' 'S' then some (.imu r.timestamp r.data)
  else if r.ID = messageID 'R' 'N' 'H' 'U' then some (.umbilical r.timestamp r.data)
  else if r.ID = messageID 'M' 'E' 'S' 'G' then
    if r.data = ascii "ARM" then some (.signal "ARM")
    else if r.data = ascii "SAFE" then some (.signal "SAFE")
    else none
  else none

/-! ## The machine -/

structure State (K : Type) where
  state : StateEstimation.State K
  rc : RollControl.State K
deriving DecidableEq, Repr

/-- A time stamp in place of a reading of the clock. -/
def noClock : Timestamp := Vector.replicate 6 0

/-- An IMU sample, as `state_receive_imu` is passed it. -/
def imuMessage (timestamp : Timestamp) (data : Bytes) : Message where
  ID := messageID 'A' 'D' 'I' 'S'
  timestamp := timestamp
  dataLength := .ofNat data.length
  data := data

/-- The calls into `rollcontrol.c`. -/
def rcEvents (s : StateEstimation.State K) : Event → List (RollControl.Event K)
  | .imu timestamp data =>
    (StateEstimation.stateReceiveImu (imuMessage timestamp data) s).2.map fun o =>
      .rcReceiveState noClock o.ID o.timestamp o.data
  | .umbilical timestamp data => [.rcRawUmb (messageID 'R' 'N' 'H' 'U') timestamp data]
  | .signal code => [.rcReceiveArm noClock code]
  | .testrc data => [.rcRawTestrc noClock data]

/-- The next estimate. -/
def estimate (s : StateEstimation.State K) : Event → StateEstimation.State K
  | .imu timestamp data => (StateEstimation.stateReceiveImu (imuMessage timestamp data) s).1
  | _ => s

/-- What `rollcontrol.c` and `arm.c` tell others: the servo, or the sender of a command. -/
inductive Effect (K : Type) where
  | servo (c : RollServoData K)
  | reply (message : String)
deriving DecidableEq, Repr

/-- A call of `rollcontrol.c` without its time stamp. -/
def effect : RollControl.Output K → Effect K
  | .rcSendServo out => .servo out.data
  | .sendServoResponse message => .reply message

def Effect.told : Effect K → Option (RollServoData K)
  | .servo c => some c
  | .reply _ => none

/-- What the servo is told, among the calls of `rollcontrol.c`. -/
def commands (out : List (RollControl.Output K)) : List (RollServoData K) :=
  (RollControl.rolls out).map ROLLMessage.data

def step (libm : Libm K) (s : State K) (e : Event) : State K × List (RollServoData K) :=
  ({ state := estimate s.state e
     rc := (RollControl.machine libm).after s.rc (rcEvents s.state e) },
    commands ((RollControl.machine libm).emits s.rc (rcEvents s.state e)))

/-- `state.c` and `rollcontrol.c` from start-up on. -/
def machine (libm : Libm K) : Machine (State K) Event (RollServoData K) where
  init := { state := StateEstimation.stateInit, rc := RollControl.rollcontrolInit }
  step := step libm

end Steering
end FlightComputer
