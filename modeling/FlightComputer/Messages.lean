import FlightComputer.Utils.CLib
import Mathlib.Order.Defs.LinearOrder

/-!
# What the modules pass each other

Most senders and receivers of the flight computer have the signature
`(const char *ID, uint8_t *timestamp, uint16_t data_length, void *data)`; `Message` is such
an argument list. The other shared types are the packets of `psas_packet.h`, `rnh.h` and
`mpl.h`, of which only the fields that some modelled function reads are kept; their sizes
are those of the whole packed structs.
-/

namespace FlightComputer

/-- A four-character message ID. -/
abbrev MessageID := Vector UInt8 4

/-- A time stamp in the PSAS format: six bytes. -/
abbrev Timestamp := Vector UInt8 6

/-- A message ID from its characters. -/
def messageID (a b c d : Char) : MessageID := #v[a.toUInt8, b.toUInt8, c.toUInt8, d.toUInt8]

/-- The arguments of a message receiver. `data` is the memory the pointer points to, up to
the end of the object there: `dataLength` may say less than that, or more. -/
structure Message where
  ID : MessageID
  timestamp : Timestamp
  dataLength : UInt16
  data : Bytes
deriving DecidableEq, Repr

/-- The `CLAMP` macro of `utils.h`. -/
def clamp {K : Type} [LT K] [DecidableLT K] (value lowerBound upperBound : K) : K :=
  if value < lowerBound then lowerBound
  else if value > upperBound then upperBound
  else value

section clamp

variable {K : Type} [LinearOrder K]

theorem clamp_eq {value lo hi : K} (hlo : lo ≤ value) (hhi : value ≤ hi) :
    clamp value lo hi = value := by
  unfold clamp
  rw [if_neg (not_lt.mpr hlo), if_neg (not_lt.mpr hhi)]

theorem le_clamp (value : K) {lo hi : K} (h : lo ≤ hi) : lo ≤ clamp value lo hi := by
  unfold clamp
  split_ifs with hlo hhi
  · exact le_refl lo
  · exact h
  · exact not_lt.mp hlo

theorem clamp_le (value : K) {lo hi : K} (h : lo ≤ hi) : clamp value lo hi ≤ hi := by
  unfold clamp
  split_ifs with hlo hhi
  · exact h
  · exact le_refl hi
  · exact not_lt.mp hhi

theorem clamp_monotone {lo hi : K} (h : lo ≤ hi) : Monotone fun value => clamp value lo hi := by
  intro value value' hle
  by_cases hlo : value < lo
  · have hclamp : clamp value lo hi = lo := if_pos hlo
    exact hclamp.trans_le (le_clamp value' h)
  · by_cases hhi : hi < value'
    · have hclamp : clamp value' lo hi = hi := by
        rw [clamp, if_neg (not_lt.mpr (h.trans hhi.le)), if_pos hhi]
      exact (clamp_le value h).trans_eq hclamp.symm
    · -- neither end is reached
      have hlo' := not_lt.mp hlo
      have hhi' := not_lt.mp hhi
      exact (clamp_eq hlo' (hle.trans hhi')).trans_le
        (hle.trans_eq (clamp_eq (hlo'.trans hle) hhi').symm)

end clamp

/-- The bytes a receiver copies that trusts `dataLength`. -/
def Message.payload (m : Message) : Bytes := memread m.data m.dataLength.toNat

@[simp] theorem Message.length_payload (m : Message) : m.payload.length = m.dataLength.toNat :=
  length_memread _ _

/-- The `COMPARE_BUFFER_TO_CMD(a, b, len)` macro of `arm.c` and `rollcontrol.c`, for a
buffer of `len` bytes. -/
def compareBufferToCmd (a : Bytes) (b : String) : Bool :=
  strncmp a (literal b) (if (literal b).length > a.length then a.length else (literal b).length)
    = 0

/-! ## Packets -/

/-- `ADIS16405Data`: the IMU sample, each field as the 16 bits found in memory. -/
structure ADIS16405Data where
  gyroX : BitVec 16
  accX : BitVec 16
  accY : BitVec 16
  accZ : BitVec 16
deriving DecidableEq, Repr

/-- Load the 16 bits at an offset in the byte order of the host. -/
def loadField16 (mem : Bytes) (offset : ℕ) : BitVec 16 :=
  BitVec.ofNat 16 (load (memread (mem.drop offset) 2))

/-- The packet a `void *` is cast to. -/
def ADIS16405Data.ofMem (mem : Bytes) : ADIS16405Data where
  gyroX := loadField16 mem 2
  accX := loadField16 mem 8
  accY := loadField16 mem 10
  accZ := loadField16 mem 12

/-- `RNHUmbdet`: the umbilical detect report. -/
structure RNHUmbdet where
  detect : UInt8
deriving DecidableEq, Repr

def RNHUmbdet.ofMem (mem : Bytes) : RNHUmbdet where
  detect := mem.headD 0

/-- `Venus8NavigationData`, the body of a Venus A8 packet. -/
structure Venus8NavigationData where
  fixMode : UInt8
deriving DecidableEq, Repr

def Venus8NavigationData.ofMem (mem : Bytes) : Venus8NavigationData where
  fixMode := mem.headD 0

/-- `SequenceErrorData` -/
structure SequenceErrorData where
  port : ℕ
  expected : ℕ
  received : ℕ
deriving DecidableEq, Repr

/-- The packed struct in memory. -/
def SequenceErrorData.toMem (err : SequenceErrorData) : Bytes :=
  store 2 err.port ++ store 4 err.expected ++ store 4 err.received

/-- `RollServoData` -/
structure RollServoData (K : Type) where
  angle : K
  disable : UInt8
deriving DecidableEq, Repr

/-- `ROLLMessage` -/
structure ROLLMessage (K : Type) where
  ID : MessageID
  timestamp : Timestamp
  dataLength : UInt16
  data : RollServoData K
deriving DecidableEq, Repr

/-- `StateData` -/
structure StateData (K : Type) where
  time : K
  accUp : K
  velUp : K
  altitude : K
  rollRate : K
  rollAngle : K
deriving DecidableEq, Repr

/-! ## Sizes of the packed structs -/

def sizeofADIS16405Data : ℕ := 24
def sizeofMPLData : ℕ := 6
def sizeofBMP180Data : ℕ := 6
def sizeofRNHHealthData : ℕ := 26
def sizeofRNHPowerData : ℕ := 16
def sizeofRNHAlarms : ℕ := 6
def sizeofRNHUmbdet : ℕ := 1
def sizeofFCFHealthData : ℕ := 124
def sizeofSequenceErrorData : ℕ := 10
def sizeofRollServoData : ℕ := 9
def sizeofVenus8NavigationData : ℕ := 58

end FlightComputer
