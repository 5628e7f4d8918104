import FlightComputer.Time
import FlightComputer.Utils.Machine
import Mathlib.Logic.Function.Basic

/-!
# `ethmux.c`: the Ethernet demultiplexer

All datagrams arrive at one socket and are told apart by the port of their sender. Those of
the sequenced sources start with a 32-bit sequence number, which `sequenced_receive` takes
off and checks; what it finds missing or late is reported in a SEQE message.

A datagram is modelled by its payload, of any length: `recvmsg` keeps what fits in `buffer`.
-/

namespace FlightComputer
namespace Ethmux

/-! ## Ports and sources -/

def ADIS_PORT : ℕ := 35020
def MPU_PORT : ℕ := 35002
def MPL_PORT : ℕ := 35010
def BMP_PORT : ℕ := 35011
def ARM_PORT : ℕ := 35666
def RC_SERVO_ENABLE_PORT : ℕ := 35667
def RNH_BATTERY : ℕ := 36101
def RNH_PORT : ℕ := 36102
def RNH_ALARM : ℕ := 36103
def RNH_UMBDET : ℕ := 36104
def FCF_HEALTH_PORT : ℕ := 36201
def JGPS_PORT : ℕ := 35050
def GPS_COTS : ℕ := 35051

def ETH_MTU : ℕ := 1500

def UINT16_MAX : ℕ := 65535

/-- The message handlers. -/
inductive Handler where
  | demuxedADIS
  | demuxedMPU
  | demuxedMPL
  | demuxedBMP
  | demuxedRNH
  | demuxedRNHUMB
  | demuxedFCFH
  | demuxedJGPS
  | demuxedCOTS
deriving DecidableEq, Repr

/-- The constant fields of `struct demux_type`. A `dataLength` of 0 stands for any length. -/
structure DemuxType where
  ID : MessageID
  dataLength : ℕ
  handler : Handler
deriving DecidableEq, Repr

/-- The statics `seq_ADIS` to `seq_GPS_COTS` of `demux`. -/
inductive Source where
  | ADIS
  | MPU
  | MPL
  | BMP
  | RNH
  | RNHPORT
  | RNHALARM
  | RNHUMBDET
  | FCFH
  | JGPS
  | GPSCOTS
deriving DecidableEq, Repr

/-- Their initial values. -/
def demuxType : Source → DemuxType
  | .ADIS => ⟨messageID 'A' 'D' 'I' 'S', sizeofADIS16405Data, .demuxedADIS⟩
  | .MPU => ⟨messageID 'M' 'P' 'U' '9', UINT16_MAX, .demuxedMPU⟩
  | .MPL => ⟨messageID 'M' 'P' 'L' '3', sizeofMPLData, .demuxedMPL⟩
  | .BMP => ⟨messageID 'B' 'M' 'P' '1', sizeofBMP180Data, .demuxedBMP⟩
  | .RNH => ⟨messageID 'R' 'N' 'H' 'H', sizeofRNHHealthData, .demuxedRNH⟩
  | .RNHPORT => ⟨messageID 'R' 'N' 'H' 'P', sizeofRNHPowerData, .demuxedRNH⟩
  | .RNHALARM => ⟨messageID 'R' 'N' 'H' 'A', sizeofRNHAlarms, .demuxedRNH⟩
  | .RNHUMBDET => ⟨messageID 'R' 'N' 'H' 'U', sizeofRNHUmbdet, .demuxedRNHUMB⟩
  | .FCFH => ⟨messageID 'F' 'C' 'F' 'H', sizeofFCFHealthData, .demuxedFCFH⟩
  | .JGPS => ⟨messageID 'J' 'G' 'P' 'S', 0, .demuxedJGPS⟩
  | .GPSCOTS => ⟨messageID 'V' '8' 'B' 'S', 0, .demuxedCOTS⟩

/-! ## State and calls -/

/-- The `next_sequence` of each source. -/
structure State where
  nextSequence : Source → ℕ

/-- The calls out of `ethmux.c`. -/
inductive Output where
  /-- `type->handler(type->ID, timestamp, len, buffer)` -/
  | demuxed (handler : Handler) (m : Message)
  /-- `demuxed_ARM(buffer, bytes, timestamp)` -/
  | demuxedARM (buffer : Bytes) (timestamp : Timestamp)
  /-- `demuxed_RC(buffer, bytes, timestamp)` -/
  | demuxedRC (buffer : Bytes) (timestamp : Timestamp)
  /-- `sequenced_error("SEQE", timestamp, sizeof err, &err)` -/
  | sequencedError (m : Message)
deriving DecidableEq, Repr

/-- A datagram: the sender's port in network byte order, the payload, and the time the
kernel stamped it with. -/
structure Packet where
  sinPort : ℕ
  payload : Bytes
  ts : Timespec
deriving DecidableEq, Repr

/-- The zeroed statics. -/
def ethmuxInit : State := { nextSequence := fun _ => 0 }

/-! ## The sequenced receiver -/

def isExpectedLength (type : Source) (len : ℕ) : Prop :=
  if (demuxType type).dataLength ≠ 0 then len = 4 + (demuxType type).dataLength
  else len ≥ 4 ∧ len ≤ UINT16_MAX - 4

instance (type : Source) (len : ℕ) : Decidable (isExpectedLength type len) :=
  inferInstanceAs (Decidable (ite _ _ _))

def formatSequencedError (port : ℕ) (timestamp : Timestamp) (expected received : ℕ) : Output :=
  let err : SequenceErrorData :=
    { port := htons port
      expected := htonl expected
      received := htonl received }
  .sequencedError
    { ID := messageID 'S' 'E' 'Q' 'E'
      timestamp := timestamp
      dataLength := .ofNat sizeofSequenceErrorData
      data := err.toMem }

/-- The call of a source's handler with what follows the sequence number. -/
def callHandler (type : Source) (timestamp : Timestamp) (buffer : Bytes) : Output :=
  .demuxed (demuxType type).handler
    { ID := (demuxType type).ID
      timestamp := timestamp
      dataLength := .ofNat buffer.length
      data := buffer }

def sequencedReceive (port : ℕ) (buffer : Bytes) (timestamp : Timestamp) (type : Source)
    (s : State) : State × List Output :=
  if ¬isExpectedLength type buffer.length then (s, [formatSequencedError port timestamp 0 0])
  else
    let rcvseq := ntohl (load (buffer.take 4))
    let buffer := buffer.drop 4
    -- three tests in a row, each against the counter as it was
    let next := s.nextSequence type
    let late := if rcvseq < next then [formatSequencedError port timestamp next rcvseq] else []
    let early := if rcvseq > next then
        [formatSequencedError port timestamp next rcvseq, callHandler type timestamp buffer]
      else []
    let onTime := if rcvseq = next then [callHandler type timestamp buffer] else []
    -- a late datagram sets the counter like any other
    ({ s with nextSequence := Function.update s.nextSequence type ((rcvseq + 1) % 2 ^ 32) },
      late ++ early ++ onTime)

/-! ## The demultiplexer -/

/-- Where the `switch` of `demux` sends a datagram. -/
inductive Route where
  | sequenced (type : Source)
  | arm
  | rc
  /-- an unknown port -/
  | default
deriving DecidableEq, Repr

/-- The `switch` on the sender's port. -/
def route (port : ℕ) : Route :=
  if port = ADIS_PORT then .sequenced .ADIS
  else if port = ARM_PORT then .arm
  else if port = MPU_PORT then .sequenced .MPU
  else if port = MPL_PORT then .sequenced .MPL
  else if port = BMP_PORT then .sequenced .BMP
  else if port = RC_SERVO_ENABLE_PORT then .rc
  else if port = RNH_BATTERY then .sequenced .RNH
  else if port = RNH_PORT then .sequenced .RNHPORT
  else if port = RNH_ALARM then .sequenced .RNHALARM
  else if port = RNH_UMBDET then .sequenced .RNHUMBDET
  else if port = FCF_HEALTH_PORT then .sequenced .FCFH
  else if port = JGPS_PORT then .sequenced .JGPS
  else if port = GPS_COTS then .sequenced .GPSCOTS
  else .default

/-- `readsocketfromts` with a buffer of `bufsize` bytes: its result, and the bytes read. -/
def readsocketfromts (bufsize : ℕ) (p : Packet) : ℤ × Bytes :=
  let received := p.payload.take bufsize
  -- an empty datagram is taken for a closed connection
  if received.length = 0 then (-1, []) else (received.length, received)

def demux (starttime : Timespec) (p : Packet) (s : State) : State × List Output :=
  let (bytes, buffer) := readsocketfromts ETH_MTU p
  let port := ntohs p.sinPort
  let timestamp := toPsasTime starttime p.ts
  if bytes > 0 then
    match route port with
    | .sequenced type => sequencedReceive port buffer timestamp type s
    | .arm => (s, [.demuxedARM buffer timestamp])
    | .rc => (s, [.demuxedRC buffer timestamp])
    | .default => (s, [])
  else (s, [])

/-! ## The module as a machine -/

/-- `ethmux.c` from the zeroed statics on, with the time `utils_time_init` recorded. -/
def machine (starttime : Timespec) : Machine State Packet Output where
  init := ethmuxInit
  step := fun s p => demux starttime p s

end Ethmux
end FlightComputer
