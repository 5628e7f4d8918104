import FlightComputer.Gps
import FlightComputer.Utils.Loop

/-!
# `devices/gps.c` on its array

The same functions as in `Gps`, one level below: `buf` is an array of 512 bytes, and the
pointers `cur`, `frame` and `start` are offsets into it. The `while` loop is a `Loop`, with no
measure or bound to it, and every access says where it goes: a read at or behind `cur` has no
value, and neither has a write behind the end of `buf`.
-/

namespace FlightComputer
namespace Gps

/-- The statics `buf` and `cur`. -/
structure Buffer where
  buf : Bytes
  cur : ℕ
  length_buf : buf.length = sizeofBuf
  cur_le : cur ≤ sizeofBuf

namespace Buffer

/-- The zeroed array, and `cur = buf`. -/
def empty : Buffer where
  buf := List.replicate sizeofBuf 0
  cur := 0
  length_buf := List.length_replicate
  cur_le := Nat.zero_le _

/-- The bytes before `cur`. -/
def used (b : Buffer) : State := b.buf.take b.cur

variable (b : Buffer)

/-! ## Reads -/

/-- The byte at an offset before `cur`. -/
def read (i : ℕ) : Option UInt8 := if i < b.cur then b.buf[i]? else none

/-- `memchr(start, c, n)`: the offset of the first `c`. -/
def memchr (c : UInt8) : ℕ → ℕ → Option (Option ℕ)
  | _, 0 => some none
  | start, n + 1 => do
    let byte ← b.read start
    if byte = c then return some start else memchr c (start + 1) n

/-- `chexxor(data, len)`, with what `ret` has come to. -/
def chexxor (ret : UInt8) : ℕ → ℕ → Option UInt8
  | _, 0 => some ret
  | data, len + 1 => do
    let byte ← b.read data
    chexxor (ret ^^^ byte) (data + 1) len

/-- The tests of the loop that know the packet length. The ID byte is read for the texts that
are printed, and for the message ID. -/
def checkPacket (frame : ℕ) (packetLen : UInt16) : Option Verdict :=
  -- sanity check
  if packetLen.toNat > sizeofBuf / 2 then do
    let _ ← b.read (frame + 4)
    return .skip 2
  else if frame + 7 + packetLen.toNat > b.cur then some .wait
  else do
    let cr ← b.read (frame + 5 + packetLen.toNat)
    let lf ← b.read (frame + 6 + packetLen.toNat)
    let _ ← b.read (frame + 4)
    if cr ≠ 0x0D ∨ lf ≠ 0x0A then return .skip 2
    else
      let sum ← b.chexxor 0 (frame + 4) packetLen.toNat
      let checksum ← b.read (frame + 4 + packetLen.toNat)
      if sum ≠ checksum then return .skip 2 else return .accept packetLen

/-- The tests of the loop, from an A0 on. -/
def checkFrame (frame : ℕ) : Option Verdict :=
  -- header + trailer is 7 bytes
  if frame + 7 > b.cur then some .wait
  else do
    let sync ← b.read (frame + 1)
    if sync ≠ 0xA1 then return .skip 1
    else
      let high ← b.read (frame + 2)
      let low ← b.read (frame + 3)
      b.checkPacket frame (readPacketLen high low)

/-! ## The loop -/

/-- In front of a pass: `frame`, and the frames transmitted so far, each by its offset and its
packet length. -/
structure Scan where
  frame : ℕ
  sent : List (ℕ × UInt16)
deriving DecidableEq, Repr

/-- Where the loop is left: with `frame` at an offset, or `NULL` where `memchr` found nothing. -/
structure Exit where
  frame : Option ℕ
  sent : List (ℕ × UInt16)
deriving DecidableEq, Repr

/-- `while (frame < cur)` -/
def venus : Loop Scan Exit where
  pass := fun s =>
    if s.frame < b.cur then do
      match ← b.memchr 0xA0 s.frame (b.cur - s.frame) with
      -- reached end of buffer
      | none => return .stop ⟨none, s.sent⟩
      | some frame =>
        match ← b.checkFrame frame with
        | .wait => return .stop ⟨some frame, s.sent⟩
        | .skip n => return .next ⟨frame + n, s.sent⟩
        | .accept packetLen =>
          return .next ⟨frame + (packetLen.toNat + 7), s.sent ++ [(frame, packetLen)]⟩
    else some (.stop ⟨some s.frame, s.sent⟩)

/-- `frame = buf` -/
def start : Scan where
  frame := 0
  sent := []

/-- `cur = buf` -/
def drop : Buffer := { b with cur := 0, cur_le := Nat.zero_le _ }

/-- The bytes from `frame` on are moved to the start of `buf`. -/
def move (frame : ℕ) : Buffer where
  buf := memwrite b.buf 0 (b.used.drop frame)
  cur := b.cur - frame
  length_buf := by
    rw [length_memwrite, b.length_buf]
    rw [List.length_drop, used, List.length_take]
    omega
  cur_le := (Nat.sub_le _ _).trans b.cur_le

/-- What is done behind the loop; `memmove` is not defined if `frame` is behind `cur`. -/
def leave : Option ℕ → Option Buffer
  | none => some b.drop
  | some frame => if frame ≤ b.cur then some (b.move frame) else none

/-- `send_venus_messages` returns, with the buffer `b'`, after it has transmitted the frames
`sent`. -/
def SendVenusMessages (b' : Buffer) (sent : List (ℕ × UInt16)) : Prop :=
  ∃ frame, b.venus.Returns start ⟨frame, sent⟩ ∧ b.leave frame = some b'

/-! ## Chunks -/

/-- `cots_raw_in` up to its call of `send_venus_messages`. -/
def receive (m : Message) : Option Buffer :=
  let b := if b.cur + m.dataLength.toNat ≥ sizeofBuf then b.drop else b
  if h : b.cur + m.dataLength.toNat ≤ sizeofBuf then
    some {
      buf := memwrite b.buf b.cur m.payload
      cur := b.cur + m.dataLength.toNat
      length_buf := by rw [length_memwrite, b.length_buf]; rwa [m.length_payload, b.length_buf]
      cur_le := h }
  else none

/-- `cots_raw_in` returns. -/
def CotsRawIn (m : Message) (b' : Buffer) (sent : List (ℕ × UInt16)) : Prop :=
  ∃ full, b.receive m = some full ∧ full.SendVenusMessages b' sent

/-- The states of `buf` and `cur` that chunks of at most 512 bytes lead to. -/
inductive Reachable : Buffer → Prop where
  | empty : Reachable empty
  | cotsRawIn {b b' : Buffer} {m : Message} {sent : List (ℕ × UInt16)} (before : Reachable b)
      (hm : m.dataLength.toNat ≤ 512) (returns : b.CotsRawIn m b' sent) : Reachable b'

end Buffer
end Gps
end FlightComputer
