import FlightComputer.EthmuxTheorems
import FlightComputer.Program

/-!
# The operator

`fc_bin/FC` sends the commands of the operator, one datagram each, and prints the reply.
`Console` is what the commands change of the flight computer, and what its replies tell of that.
-/

namespace FlightComputer
namespace Operator

open Ethmux (Packet)

/-! ## `FC` -/

/-- The actions of `FC`. -/
inductive Action where
  | arm
  | safe
  | disableServo
  | enableServo
  | override
  | slock
deriving DecidableEq, Repr

/-- The list of FC commands: the message, and the port it is sent from. -/
def COMMANDS : Action → String × ℕ
  | .arm => ("#YOLO", Ethmux.ARM_PORT)
  | .safe => ("#SAFE", Ethmux.ARM_PORT)
  | .disableServo => ("DISABLE", Ethmux.RC_SERVO_ENABLE_PORT)
  | .enableServo => ("ENABLE", Ethmux.RC_SERVO_ENABLE_PORT)
  | .override => ("DI_SLOCK", Ethmux.ARM_PORT)
  | .slock => ("EN_SLOCK", Ethmux.ARM_PORT)

/-- The datagram of `talk`, as it arrives. -/
def talk (action : Action) (ts : Timespec) : Packet where
  sinPort := htons (COMMANDS action).2
  payload := ascii (COMMANDS action).1
  ts := ts

/-- What `FC` may print for an action. -/
def answers : Action → List String
  | .arm => ["successful ARM", "ARM failed due to sensor lock"]
  | .safe => ["successful SAFE"]
  | .disableServo => ["Roll control servos disabled",
      "Roll control servos state not changed due to being armed"]
  | .enableServo => ["Roll control servos enabled",
      "Roll control servos state not changed due to being armed"]
  | .override => ["Sensor Lock Overridden"]
  | .slock => ["successful EN_SLOCK"]

/-- A datagram that reaches `arm_raw_in` or `rc_raw_testrc`. An empty one does not. -/
def IsCommand (p : Packet) : Prop :=
  (Ethmux.route p.port = .arm ∨ Ethmux.route p.port = .rc) ∧ p.received ≠ []

instance (p : Packet) : Decidable (IsCommand p) := inferInstanceAs (Decidable (_ ∧ _))

/-- The actions for the commands of `arm_raw_in`. -/
def armAction : Arm.Command → Option Action
  | .arm => some .arm
  | .safe => some .safe
  | .enSlock => some .slock
  | .diSlock => some .override
  | .unknown => none

/-- The action a command asks for, whoever sends it. -/
def requested (p : Packet) : Option Action :=
  if Ethmux.route p.port = .arm then armAction (Arm.recognise p.received)
  else if compareBufferToCmd p.received "ENABLE" then some .enableServo
  else if compareBufferToCmd p.received "DISABLE" then some .disableServo
  else none

/-- What any command may be answered with. -/
def answersTo (p : Packet) : List String :=
  match requested p with
  | some action => answers action
  | none =>
    if Ethmux.route p.port = .arm then ["UNKNOWN COMMAND"]
    else ["Unknown servo command", "Roll control servos state not changed due to being armed"]

/-! ## What commands do -/

/-- What commands change: whether the sensor lock is on, whether the rocket is armed, and whether
the servo has been granted. -/
structure Console where
  slock : Bool
  armed : Bool
  granted : Bool
deriving DecidableEq, Repr

/-- At start-up. -/
def Console.init : Console := { slock := true, armed := false, granted := false }

/-- What an action does and what it is answered with. The sensor lock allows for arming if the
sensors are `ready`. -/
def Console.perform (c : Console) (ready : Bool) : Action → Console × String
  | .arm =>
    if ready = true ∨ c.slock = false then
      ({ c with armed := true, granted := true }, "successful ARM")
    else (c, "ARM failed due to sensor lock")
  | .safe => ({ c with armed := false, granted := false }, "successful SAFE")
  | .disableServo =>
    if c.armed then (c, "Roll control servos state not changed due to being armed")
    else ({ c with granted := false }, "Roll control servos disabled")
  | .enableServo =>
    if c.armed then (c, "Roll control servos state not changed due to being armed")
    else ({ c with granted := true }, "Roll control servos enabled")
  | .override => ({ c with slock := false }, "Sensor Lock Overridden")
  | .slock => ({ c with slock := true }, "successful EN_SLOCK")

/-- The same for any command. -/
def Console.handle (c : Console) (ready : Bool) (p : Packet) : Console × String :=
  match requested p with
  | some action => c.perform ready action
  | none =>
    if Ethmux.route p.port = .arm then (c, "UNKNOWN COMMAND")
    else if c.armed then (c, "Roll control servos state not changed due to being armed")
    else (c, "Unknown servo command")

/-! ## What the replies tell -/

def Console.read (c : Console) (message : String) : Console :=
  if message = "successful ARM" then { c with armed := true, granted := true }
  else if message = "successful SAFE" then { c with armed := false, granted := false }
  else if message = "successful EN_SLOCK" then { c with slock := true }
  else if message = "Sensor Lock Overridden" then { c with slock := false }
  else if message = "Roll control servos enabled" then { c with granted := true }
  else if message = "Roll control servos disabled" then { c with granted := false }
  else c

/-- What all the replies so far tell. -/
def console (messages : List String) : Console := messages.foldl Console.read .init

/-- A reply that agrees with those before it. -/
structure Agrees (c : Console) (message : String) : Prop where
  declined : message = "ARM failed due to sensor lock" → c.slock = true
  armed : message = "Roll control servos state not changed due to being armed" → c.armed = true
  tested : message ∈ ["Roll control servos enabled", "Roll control servos disabled",
    "Unknown servo command"] → c.armed = false

end Operator
end FlightComputer
