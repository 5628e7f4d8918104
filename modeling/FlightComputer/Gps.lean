import FlightComputer.Messages
import FlightComputer.Utils.Machine

/-!
# `devices/gps.c`: frames from the GPS stream

The COTS GPS sends a stream of bytes, cut by the network wherever it likes. The bytes are
collected in `buf`, and `send_venus_messages` looks for whole Venus frames among them.

The buffer is modelled by the bytes in use, those before `cur`; the list has no bound of its
own, so `cots_raw_in` can be followed past `sizeof buf` too. A pointer into the buffer is
the list of bytes from there to `cur`.
-/

namespace FlightComputer
namespace Gps

/-- The statics `buf` and `cur`: the bytes of `buf` before `cur`. -/
abbrev State := Bytes

/-- `sizeof buf` -/
def sizeofBuf : ℕ := 512

/-- `chexxor` -/
def chexxor (data : Bytes) : UInt8 := data.foldl (fun ret b => ret ^^^ b) 0

/-! ## One frame -/

/-- What the loop does with an A0. -/
inductive Verdict where
  /-- `break`: wait for more data -/
  | wait
  /-- `continue`, after skipping some bytes -/
  | skip (n : ℕ)
  /-- full packet, transmit it -/
  | accept (packetLen : UInt16)
deriving DecidableEq, Repr

/-- The 16-bit big-endian packet length. -/
def readPacketLen (high low : UInt8) : UInt16 := (high.toUInt16 <<< 8) ||| low.toUInt16

/-- The tests of the loop that know the packet length. -/
def checkPacket (frame : Bytes) (packetLen : UInt16) : Verdict :=
  -- sanity check
  if packetLen.toNat > sizeofBuf / 2 then .skip 2
  else if _ : frame.length < 7 + packetLen.toNat then .wait
  else if frame[5 + packetLen.toNat] ≠ 0x0D ∨ frame[6 + packetLen.toNat] ≠ 0x0A then .skip 2
  else if chexxor ((frame.drop 4).take packetLen.toNat) ≠ frame[4 + packetLen.toNat] then .skip 2
  else .accept packetLen

/-- The tests of the loop, from the first byte of a frame on. -/
def checkFrame (frame : Bytes) : Verdict :=
  -- header + trailer is 7 bytes
  if _ : frame.length < 7 then .wait
  else if frame[1] ≠ 0xA1 then .skip 1
  else checkPacket frame (readPacketLen frame[2] frame[3])

/-- Skipping is progress. -/
theorem checkFrame_skip {frame : Bytes} {n : ℕ} (h : checkFrame frame = .skip n) :
    0 < n ∧ n ≤ frame.length := by
  unfold checkFrame checkPacket at h
  split_ifs at h <;> cases h <;> omega

/-- Where a frame has been accepted: the memory from its first byte to `cur`. -/
structure Frame where
  mem : Bytes
  packetLen : UInt16
deriving DecidableEq, Repr

/-- The ID byte and the data. -/
def Frame.packet (f : Frame) : Bytes := (f.mem.drop 4).take f.packetLen.toNat

/-! ## The loop -/

/-- `send_venus_messages` from `start` on: the frames transmitted, and the bytes that are
moved to the start of `buf`. -/
def venusLoop (start : Bytes) : List Frame × Bytes :=
  if start = [] then ([], [])
  else
    match _hfound : memchr start 0xA0 with
    -- reached end of buffer: all of it is dropped
    | none => ([], [])
    | some frame =>
      match _hcheck : checkFrame frame with
      | .wait => ([], frame)
      | .skip n => venusLoop (frame.drop n)
      | .accept packetLen =>
        -- full packet, transmit it and go on behind its trailer
        let rest := venusLoop (frame.drop (packetLen.toNat + 7))
        (⟨frame, packetLen⟩ :: rest.1, rest.2)
termination_by start.length
decreasing_by
  · have hlen := (memchr_eq_some _hfound).1.length_le
    have hskip := checkFrame_skip _hcheck
    rw [List.length_drop]
    omega
  · have hlen := (memchr_eq_some _hfound).1.length_le
    obtain ⟨tail, htail⟩ := (memchr_eq_some _hfound).2
    rw [htail, List.length_cons] at hlen
    rw [List.length_drop, htail, List.length_cons]
    omega

/-! ## Calls -/

/-- An upper-case hexadecimal digit, as `sprintf` prints it. -/
def hexDigit (n : ℕ) : UInt8 := if n < 10 then UInt8.ofNat (48 + n) else UInt8.ofNat (55 + n)

/-- The characters of `"V8%02X"`. -/
def venusID (b : UInt8) : MessageID :=
  #v['V'.toUInt8, '8'.toUInt8, hexDigit (b.toNat / 16), hexDigit (b.toNat % 16)]

/-- The call to `gps_data_out` for a frame. The length is converted to `uint16_t`. -/
def gpsDataOut (timestamp : Timestamp) (f : Frame) : Message where
  ID := venusID ((f.mem.drop 4).headD 0)
  timestamp := timestamp
  dataLength := f.packetLen - 1
  data := f.mem.drop 5

/-- A frame accepted, with the time stamp it is transmitted under. -/
structure Output where
  timestamp : Timestamp
  frame : Frame
deriving DecidableEq, Repr

/-- The call made for it. -/
def Output.message (o : Output) : Message := gpsDataOut o.timestamp o.frame

def sendVenusMessages (timestamp : Timestamp) (s : State) : State × List Output :=
  ((venusLoop s).2, (venusLoop s).1.map fun f => { timestamp := timestamp, frame := f })

/-- The test of `cots_raw_in` that empties the buffer. -/
def overrun (s : State) (m : Message) : Prop := s.length + m.dataLength.toNat ≥ sizeofBuf

instance (s : State) (m : Message) : Decidable (overrun s m) := inferInstanceAs (Decidable (_ ≥ _))

/-- The bytes in front of the `memcpy` of `cots_raw_in`. -/
def beforeCopy (s : State) (m : Message) : Bytes := if overrun s m then [] else s

/-- Receives a COTS GPS message from the network. -/
def cotsRawIn (m : Message) (s : State) : State × List Output :=
  sendVenusMessages m.timestamp (beforeCopy s m ++ m.payload)

/-! ## The module as a machine -/

/-- `gps.c` from the initial, empty buffer on. -/
def machine : Machine State Message Output where
  init := []
  step := fun s m => cotsRawIn m s

end Gps
end FlightComputer
