import FlightComputer.Arm
import FlightComputer.Ethmux
import FlightComputer.Gps
import FlightComputer.Logger
import FlightComputer.RollControl
import FlightComputer.StateEstimation
import FlightComputer.Utils.Dispatch

/-!
# `main.miml`: the whole flight computer

The modules call each other through the messages of `main.miml`; the dispatcher generated
from it calls the receivers of a message in the order they are listed in. The calls are
nested in C, and made here when the sender returns: no module is called back while one of
its functions runs, so no receiver can tell.

The logger and the roll servo only receive. Their calls are the outputs of this machine,
which keeps the state of the other modules. The clock is an arbitrary sequence of readings.
-/

namespace FlightComputer

/-! ## `filter.c` -/

namespace Filter

/-- Where `filter_receive` sends a message. -/
inductive Output where
  | filterToGround
  | filterToDisk
deriving DecidableEq, Repr

def filterReceive (m : Message) : Output :=
  -- we log most GPS data to disk only
  if m.ID.toList.take 2 = ascii "V8" ∨ m.ID = messageID 'J' 'G' 'P' 'S' then
    -- with the exception of V8A8, which we want to see in real time
    if m.ID = messageID 'V' '8' 'A' '8' then .filterToGround else .filterToDisk
  -- everything else we want in real time
  else .filterToGround

end Filter

namespace Main

variable {K : Type} [Field K] [LinearOrder K]

/-! ## State and calls -/

/-- What is around the program: the start time, the readings of the clock, the mathematical
functions and the format of a `double`. -/
structure Env (K : Type) where
  starttime : Timespec
  clock : ℕ → Timestamp
  libm : Libm K
  doubleBits : K → ℕ

/-- The state of the modules, and how often the clock has been read. -/
structure State (K : Type) where
  ethmux : Ethmux.State
  gps : Gps.State
  arm : Arm.State
  rc : RollControl.State K
  state : StateEstimation.State K
  reads : ℕ

/-- The calls of the logger and of the roll servo, and the replies to commands. -/
inductive Output (K : Type) where
  | log (call : Logger.Event)
  | rsReceiveAdj (adj : ROLLMessage K)
  | respond (message : String)
deriving DecidableEq, Repr

def init : State K where
  ethmux := Ethmux.ethmuxInit
  gps := []
  arm := Arm.armInit
  rc := RollControl.rollcontrolInit
  state := StateEstimation.stateInit
  reads := 0

/-- A receiver of this system. -/
abbrev Action (K : Type) := Receiver (State K) (Output K)

open Receiver

variable (env : Env K)

/-- `get_psas_time` -/
def getPsasTime (use : Timestamp → Action K) : Action K := fun s =>
  use (env.clock s.reads) { s with reads := s.reads + 1 }

/-! ## Receivers that only receive -/

def logWrite (m : Message) : Action K :=
  getPsasTime env fun clock => call [.log (.logWrite clock m)]

def logWriteDiskOnly (m : Message) : Action K :=
  getPsasTime env fun clock => call [.log (.logWriteDiskOnly clock m)]

def logTimeout : Action K := getPsasTime env fun clock => call [.log (.logTimeout clock)]

def logReceiveArm (code : String) : Action K :=
  getPsasTime env fun timestamp => getPsasTime env fun clock =>
    call [.log (Logger.logReceiveArm clock timestamp code)]

def logReceiveRc (data : ROLLMessage K) : Action K :=
  getPsasTime env fun clock => call [.log (Logger.logReceiveRc env.doubleBits clock data)]

def logReceiveRnhVersion (message : Bytes) : Action K :=
  getPsasTime env fun timestamp => getPsasTime env fun clock =>
    call [.log (Logger.logReceiveRnhVersion clock timestamp message)]

def rsReceiveAdj (adj : ROLLMessage K) : Action K := call [.rsReceiveAdj adj]

/-! ## Roll control -/

def rcSendServo (out : ROLLMessage K) : Action K :=
  inOrder [rsReceiveAdj out, logReceiveRc env out]

def rcOutput : RollControl.Output K → Action K
  | .rcSendServo out => rcSendServo env out
  | .sendServoResponse message => call [.respond message]

/-- A call into `rollcontrol.c`. -/
def rc (event : Timestamp → RollControl.Event K) : Action K :=
  getPsasTime env fun clock s =>
    let r := RollControl.step env.libm s.rc (event clock)
    inOrder (r.2.map (rcOutput env)) { s with rc := r.1 }

def rcReceiveArm (signal : String) : Action K := rc env fun clock => .rcReceiveArm clock signal

def rcRawTestrc (data : Bytes) : Action K := rc env fun clock => .rcRawTestrc clock data

def rcRawUmb (m : Message) : Action K := rc env fun _ => .rcRawUmb m.ID m.timestamp m.data

def rcReceiveState (m : StateEstimation.Output K) : Action K :=
  rc env fun clock => .rcReceiveState clock m.ID m.timestamp m.data

/-! ## Arming -/

def armSendSignal (code : String) : Action K :=
  inOrder [rcReceiveArm env code, logReceiveArm env code]

def armOutput : Arm.Output → Action K
  | .armSendSignal code => armSendSignal env code
  | .sendArmResponse message => call [.respond message]

/-- A call into `arm.c`. -/
def arm (event : Arm.Event) : Action K := fun s =>
  let r := Arm.step s.arm event
  inOrder (r.2.map (armOutput env)) { s with arm := r.1 }

def armReceiveImu (m : Message) : Action K := arm env (.armReceiveImu m)

def armReceiveGps (m : Message) : Action K := arm env (.armReceiveGps m)

def armRawIn (buffer : Bytes) : Action K := arm env (.armRawIn buffer)

/-! ## State estimation -/

def stateSendMessage (m : StateEstimation.Output K) : Action K := inOrder [rcReceiveState env m]

def stateReceiveImu (m : Message) : Action K := fun s =>
  let r := StateEstimation.stateReceiveImu m s.state
  inOrder (r.2.map (stateSendMessage env)) { s with state := r.1 }

/-! ## GPS -/

def filterToGround (m : Message) : Action K := inOrder [logWrite env m]

def filterToDisk (m : Message) : Action K := inOrder [logWriteDiskOnly env m]

def filterReceive (m : Message) : Action K :=
  match Filter.filterReceive m with
  | .filterToGround => filterToGround env m
  | .filterToDisk => filterToDisk env m

def gpsDataOut (m : Message) : Action K := inOrder [armReceiveGps env m, filterReceive env m]

def cotsRawIn (m : Message) : Action K := fun s =>
  let r := Gps.cotsRawIn m s.gps
  inOrder (r.2.map fun o => gpsDataOut env o.message) { s with gps := r.1 }

/-! ## Ethernet -/

def demuxed (m : Message) : Ethmux.Handler → Action K
  | .demuxedADIS => inOrder [logWrite env m, armReceiveImu env m, stateReceiveImu env m]
  | .demuxedMPU => inOrder [logWrite env m]
  | .demuxedMPL => inOrder [logWrite env m]
  | .demuxedBMP => inOrder [logWrite env m]
  | .demuxedRNH => inOrder [logWrite env m]
  -- the one message that is acted on before it is logged
  | .demuxedRNHUMB => inOrder [rcRawUmb env m, logWrite env m]
  | .demuxedFCFH => inOrder [logWrite env m]
  | .demuxedJGPS => inOrder [filterReceive env m]
  | .demuxedCOTS => inOrder [cotsRawIn env m]

def ethOutput : Ethmux.Output → Action K
  | .demuxed handler m => demuxed env m handler
  | .demuxedARM buffer _ => inOrder [armRawIn env buffer]
  | .demuxedRC buffer _ => inOrder [rcRawTestrc env buffer]
  | .sequencedError m => inOrder [logWrite env m]

def demux (p : Ethmux.Packet) : Action K := fun s =>
  let r := Ethmux.demux env.starttime p s.ethmux
  inOrder (r.2.map (ethOutput env)) { s with ethmux := r.1 }

/-! ## RocketNet hub -/

def rnhVersionOut (buffer : Bytes) : Action K := inOrder [logReceiveRnhVersion env buffer]

/-- `version_callback` of `rnh.c`: it reads at most 50 bytes of a reply. -/
def versionCallback (reply : Bytes) : Action K := rnhVersionOut env (reply.take 50)

/-! ## The system as a machine -/

/-- What the flight computer waits for. The last two are calls that `arm.c` and
`rollcontrol.c` make while they handle a datagram; as events they may come at any time. -/
inductive Event (K : Type) where
  | datagram (p : Ethmux.Packet)
  | logTimeout
  | versionCallback (reply : Bytes)
  | armSignal (armed : Bool)
  | setCanardAngle (degrees : K)

def step (s : State K) : Event K → State K × List (Output K)
  | .datagram p => demux env p s
  | .logTimeout => logTimeout env s
  | .versionCallback reply => versionCallback env reply s
  | .armSignal armed => armSendSignal env (if armed then "ARM" else "SAFE") s
  | .setCanardAngle degrees =>
    getPsasTime env (fun clock s =>
      inOrder ((RollControl.setCanardAngle clock degrees s.rc).map (rcOutput env)) s) s

/-- The flight computer from start-up on. -/
def machine : Machine (State K) (Event K) (Output K) where
  init := init
  step := step env

end Main
end FlightComputer
