import FlightComputer.Messages
import FlightComputer.Utils.Machine

/-!
# `logger.c`: the log file and the telemetry

Records are collected in two buffers, one for the disk and one, much smaller, for the WiFi
link, and both are written out together by `flush_log`. A buffer is modelled by the bytes in
use, so `log_buffer_size` and `disk_log_buffer_size` are the lengths, and a `memcpy` to the
end of a buffer appends.

The calls out of the module are its system calls. A function that may flush takes what
`get_psas_time` would write as its argument `clock`: a flush empties the buffers, so no call
into the module flushes them twice.
-/

namespace FlightComputer
namespace Logger

/-! ## Constants -/

def LINK_MTU : ℕ := 1500
def UDP_HEADER_SIZE : ℕ := 8
def IPv4_MAX_HEADER_SIZE : ℕ := 60
def P_LIMIT : ℕ := LINK_MTU - UDP_HEADER_SIZE - IPv4_MAX_HEADER_SIZE - 4

/-- `sizeof disk_log_buffer` -/
def sizeofDiskLogBuffer : ℕ := 65536

/-- `sizeof(message_header)` -/
def sizeofMessageHeader : ℕ := 12

/-! ## State and system calls -/

/-- The globals of `logger.c`. -/
structure State where
  logBuffer : Bytes
  diskLogBuffer : Bytes
  sequence : ℕ
deriving DecidableEq, Repr

/-- The two outputs, `disk_fd` and `net_fd`. -/
inductive Fd where
  | disk
  | net
deriving DecidableEq, Repr

/-- The system calls of `logger.c`. -/
inductive Output where
  | writev (fd : Fd) (bytes : Bytes)
  | close (fd : Fd)
deriving DecidableEq, Repr

def loggerInit : State := { logBuffer := [], diskLogBuffer := [], sequence := 0 }

/-- `message_header` in memory. -/
def messageHeader (ID : MessageID) (timestamp : Timestamp) (dataLength : ℕ) : Bytes :=
  ID.toList ++ timestamp.toList ++ store 2 (htons dataLength)

/-! ## Functions -/

def flushLog (clock : Timestamp) (s : State) : State × List Output :=
  if s.diskLogBuffer.length = 0 then (s, [])
  else
    -- for the log file, convert the sequence number to a SEQN message
    let header := messageHeader (messageID 'S' 'E' 'Q' 'N') clock 4
    let swappedSequence := store 4 (htonl s.sequence)
    ({ logBuffer := [], diskLogBuffer := [], sequence := (s.sequence + 1) % 2 ^ 32 },
      [.writev .disk (header ++ swappedSequence ++ s.diskLogBuffer),
        .writev .net (swappedSequence ++ s.logBuffer)])

/-- Every `writev` is taken to be complete, also one that is made after this; the process makes
none. -/
def loggerFinal (clock : Timestamp) (s : State) : State × List Output :=
  let r := flushLog clock s
  (r.1, r.2 ++ [.close .disk, .close .net])

def ensureDiskLogSpace (clock : Timestamp) (len : ℕ) (s : State) : State × List Output :=
  if s.diskLogBuffer.length + len > sizeofDiskLogBuffer then flushLog clock s else (s, [])

def ensureNetLogSpace (clock : Timestamp) (len : ℕ) (s : State) : State × List Output :=
  let r := ensureDiskLogSpace clock len s
  if r.1.logBuffer.length + len > P_LIMIT then
    let f := flushLog clock r.1
    (f.1, r.2 ++ f.2)
  else r

def logWriteDiskOnly (clock : Timestamp) (m : Message) (s : State) : State × List Output :=
  let len := sizeofMessageHeader + m.dataLength.toNat
  let r := ensureDiskLogSpace clock len s
  let header := messageHeader m.ID m.timestamp m.dataLength.toNat
  ({ r.1 with diskLogBuffer := r.1.diskLogBuffer ++ (header ++ m.payload) }, r.2)

def logWrite (clock : Timestamp) (m : Message) (s : State) : State × List Output :=
  let len := sizeofMessageHeader + m.dataLength.toNat
  let r := ensureNetLogSpace clock len s
  let diskStart := r.1.diskLogBuffer.length
  let w := logWriteDiskOnly clock m r.1
  let copied := memread (w.1.diskLogBuffer.drop diskStart) len
  ({ w.1 with logBuffer := w.1.logBuffer ++ copied }, r.2 ++ w.2)

def logTimeout (clock : Timestamp) (s : State) : State × List Output := flushLog clock s

/-! ## The module as a machine -/

/-- The calls into `logger.c`; the three `log_receive` functions below only call `log_write`. -/
inductive Event where
  | logWrite (clock : Timestamp) (m : Message)
  | logWriteDiskOnly (clock : Timestamp) (m : Message)
  | logTimeout (clock : Timestamp)
  | loggerFinal (clock : Timestamp)
deriving DecidableEq, Repr

/-- `log_receive_arm`: an arm signal is logged as a MESG record, stamped `timestamp`. -/
def logReceiveArm (clock timestamp : Timestamp) (code : String) : Event :=
  .logWrite clock
    { ID := messageID 'M' 'E' 'S' 'G'
      timestamp := timestamp
      dataLength := .ofNat (strlen code)
      data := literal code }

/-- `log_receive_rc`: the angle is byte-swapped in place, then the message is logged;
`doubleBits` is the bit pattern of a `double`. -/
def logReceiveRc {K : Type} (doubleBits : K → ℕ) (clock : Timestamp) (data : ROLLMessage K) :
    Event :=
  .logWrite clock
    { ID := data.ID
      timestamp := data.timestamp
      dataLength := data.dataLength
      data := store 8 (swapBytes 8 (doubleBits data.data.angle)) ++ [data.data.disable] }

/-- `log_receive_rnh_version`: the version reply is logged as a VERS record. -/
def logReceiveRnhVersion (clock timestamp : Timestamp) (message : Bytes) : Event :=
  .logWrite clock
    { ID := messageID 'V' 'E' 'R' 'S'
      timestamp := timestamp
      dataLength := .ofNat message.length
      data := message }

def step (s : State) : Event → State × List Output
  | .logWrite clock m => logWrite clock m s
  | .logWriteDiskOnly clock m => logWriteDiskOnly clock m s
  | .logTimeout clock => logTimeout clock s
  | .loggerFinal clock => loggerFinal clock s

/-- `logger.c` from `logger_init` on. -/
def machine : Machine State Event Output where
  init := loggerInit
  step := step

end Logger
end FlightComputer
