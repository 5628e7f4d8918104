import FlightComputer.Main
import FlightComputer.RollServo
import FlightComputer.Utils.Simulation

/-!
# The whole process

`Main` leaves the calls of the logger and of the roll servo open. Here the two handle them, so
what comes out are the writes of the process: to the log file, to the WiFi link, to the servo,
and the replies to commands.

The process waits for three things only. The signals and messages that `Main` takes as events
of their own come from `arm.c` and `rollcontrol.c` alone.

A write may fail, or take only a part of what it is given. The process reports that with
`perror`, or not at all, and goes on in the same way, so which calls it makes does not depend on
it. What is written then, does (`sent`).

The buffers of `gps.c` and `logger.c` are lists here, without an end. A run in which the process
would write past the end of one goes on all the same, and says nothing about the process.
-/

namespace FlightComputer
namespace Program

variable {K : Type} [Field K] [LinearOrder K] [FloorSemiring K]

/-! ## Events and system calls -/

/-- What `poll` wakes the process for. -/
inductive Event where
  | datagram (p : Ethmux.Packet)
  | logTimeout
  | versionCallback (reply : Bytes)
deriving DecidableEq, Repr

/-- The datagrams among some events. -/
def packets (es : List Event) : List Ethmux.Packet :=
  es.filterMap fun
    | .datagram p => some p
    | _ => none

/-- The system calls of the process, whether they succeed or not. -/
inductive Syscall where
  | logger (o : Logger.Output)
  /-- `write(sd, data, sizeof(data))` of `rollservo.c`; there is no data if the conversion to
  ticks is not defined -/
  | servo (data : Option Bytes)
  /-- `write(sd, message, strlen(message))` of `arm.c` and `rollcontrol.c` -/
  | reply (message : String)
deriving DecidableEq, Repr

/-- The event as `Main` has it. -/
def Event.toMain : Event → Main.Event K
  | .datagram p => .datagram p
  | .logTimeout => .logTimeout
  | .versionCallback reply => .versionCallback reply

/-! ## The logger and the servo -/

/-- The globals of `logger.c`, and the static `seq` of `rs_receive_adj`. -/
structure Devices where
  logger : Logger.State
  seq : UInt32
deriving DecidableEq, Repr

def handle (s : Devices) : Main.Output K → Devices × List Syscall
  | .log call =>
    ({ s with logger := (Logger.step s.logger call).1 },
      (Logger.step s.logger call).2.map .logger)
  | .rsReceiveAdj adj =>
    ({ s with seq := (RollServo.step s.seq adj).1 }, (RollServo.step s.seq adj).2.map .servo)
  | .respond message => (s, [.reply message])

def devices : Machine Devices (Main.Output K) Syscall where
  init := { logger := Logger.loggerInit, seq := 0 }
  step := handle

/-! ## The process -/

variable (env : Main.Env K)

/-- The modules in front of the devices. -/
def front : Machine (Main.State K) Event (Main.Output K) where
  init := Main.init
  step := fun s e => Main.step env s e.toMain

/-- The process from start-up on. -/
def machine : Machine (Main.State K × Devices) Event Syscall := (front env).cascade devices

/-- The end of the process: what is left in the buffers is written out. -/
def final (s : Main.State K × Devices) : List Syscall :=
  (Logger.loggerFinal (env.clock s.1.reads) s.2.logger).2.map .logger

/-- All system calls of a process that waits for the events, and ends. -/
def session (es : List Event) : List Syscall :=
  (machine env).outputs es ++ final env ((machine env).run es)

/-! ## What is written where -/

/-- The calls that take what they are given: `ok n` says whether the `n`-th does. Nothing is
counted as sent by the others. -/
def sent (ok : ℕ → Bool) (calls : List Syscall) : List Syscall :=
  (calls.zipIdx.filter fun c => ok c.2).map Prod.fst

def loggerCalls (out : List Syscall) : List Logger.Output :=
  out.filterMap fun
    | .logger o => some o
    | _ => none

/-- The log file. -/
def logFile (out : List Syscall) : Bytes :=
  ((loggerCalls out).filterMap fun
    | .writev .disk bytes => some bytes
    | _ => none).flatten

/-- The datagrams of the telemetry. -/
def telemetry (out : List Syscall) : List Bytes :=
  (loggerCalls out).filterMap fun
    | .writev .net bytes => some bytes
    | _ => none

/-- The datagrams to the servo. -/
def servoData (out : List Syscall) : List (Option Bytes) :=
  out.filterMap fun
    | .servo data => some data
    | _ => none

/-- The replies to commands. -/
def replies (out : List Syscall) : List String :=
  out.filterMap fun
    | .reply message => some message
    | _ => none

end Program
end FlightComputer
