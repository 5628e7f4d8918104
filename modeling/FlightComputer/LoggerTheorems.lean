import FlightComputer.Logger
import FlightComputer.Utils.Codec
import Mathlib.Tactic.Ring

/-!
# The log file and the telemetry are what was logged

What the logger is for is a `Journal`: the segments written out so far, each with the entries
it holds, and the entries still pending. `Represents` says how the two buffers and the system
calls of `logger.c` stand for a journal, and every function of the module is shown to act on
the journal it represents: a flush closes the pending segment, a write appends an entry. The
contents of the log file and of the datagrams are then read off the journal.
-/

namespace FlightComputer
namespace Logger

/-! ## Records -/

/-- A record of the log: what a message header and its data say. -/
structure Record where
  ID : MessageID
  timestamp : Timestamp
  data : Bytes
  data_lt : data.length < 2 ^ 16
deriving DecidableEq

/-- A record as bytes: ID, time stamp, big-endian length, data. -/
def encodeRecord (r : Record) : Bytes :=
  r.ID.toList ++ r.timestamp.toList ++ beBytes 2 r.data.length ++ r.data

/-- Read a record off the front of a byte string. -/
def decodeRecord : Bytes → Option (Record × Bytes)
  | i₀ :: i₁ :: i₂ :: i₃ :: t₀ :: t₁ :: t₂ :: t₃ :: t₄ :: t₅ :: l₁ :: l₀ :: rest =>
    if beNat [l₁, l₀] ≤ rest.length then
      some
        ({ ID := #v[i₀, i₁, i₂, i₃]
           timestamp := #v[t₀, t₁, t₂, t₃, t₄, t₅]
           data := rest.take (beNat [l₁, l₀])
           data_lt := by
            have h := beNat_lt [l₁, l₀]
            have htake := rest.length_take_le (beNat [l₁, l₀])
            simp only [List.length_cons, List.length_nil] at h
            omega },
          rest.drop (beNat [l₁, l₀]))
    else none
  | _ => none

@[simp] lemma length_encodeRecord (r : Record) :
    (encodeRecord r).length = sizeofMessageHeader + r.data.length := by
  simp only [encodeRecord, List.length_append, Vector.length_toList, length_beBytes,
    sizeofMessageHeader]

lemma messageID_eq (v : MessageID) : v = #v[v[0], v[1], v[2], v[3]] := by
  apply Vector.ext
  intro i hi
  interval_cases i <;> rfl

lemma timestamp_eq (v : Timestamp) : v = #v[v[0], v[1], v[2], v[3], v[4], v[5]] := by
  apply Vector.ext
  intro i hi
  interval_cases i <;> rfl

lemma decodeRecord_encodeRecord (r : Record) (rest : Bytes) :
    decodeRecord (encodeRecord r ++ rest) = some (r, rest) := by
  obtain ⟨ID, timestamp, data, hdata⟩ := r
  obtain ⟨l₁, l₀, hl⟩ : ∃ l₁ l₀, beBytes 2 data.length = [l₁, l₀] :=
    List.length_eq_two.mp (length_beBytes 2 data.length)
  have hlen : beNat [l₁, l₀] = data.length := by
    rw [← hl]
    exact beNat_beBytes_of_lt hdata
  have hbytes : encodeRecord ⟨ID, timestamp, data, hdata⟩ ++ rest =
      ID[0] :: ID[1] :: ID[2] :: ID[3] :: timestamp[0] :: timestamp[1] :: timestamp[2] ::
        timestamp[3] :: timestamp[4] :: timestamp[5] :: l₁ :: l₀ :: (data ++ rest) := by
    rw [encodeRecord, hl]
    conv_lhs => rw [messageID_eq ID, timestamp_eq timestamp]
    rfl
  rw [hbytes, decodeRecord]
  simp only [hlen, List.length_append, Nat.le_add_right, if_true, List.take_left',
    List.drop_left', ← messageID_eq, ← timestamp_eq]

lemma length_decodeRecord_lt {bs : Bytes} {r : Record} {rest : Bytes}
    (h : decodeRecord bs = some (r, rest)) : rest.length < bs.length := by
  unfold decodeRecord at h
  split at h
  · split_ifs at h
    cases h
    simp only [List.length_drop, List.length_cons]
    omega
  · cases h

/-- The record format, as a codec. -/
def recordCodec : Codec Record UInt8 where
  encode := encodeRecord
  decode := decodeRecord
  decode_encode := decodeRecord_encodeRecord
  length_decode_lt := length_decodeRecord_lt

/-- The record a message asks to be logged. -/
def recordOf (m : Message) : Record where
  ID := m.ID
  timestamp := m.timestamp
  data := m.payload
  data_lt := by rw [Message.length_payload]; exact m.dataLength.toNat_lt

/-- The SEQN record that opens the `n`-th segment of the log file. -/
def seqnRecord (stamp : Timestamp) (n : ℕ) : Record where
  ID := messageID 'S' 'E' 'Q' 'N'
  timestamp := stamp
  data := beBytes 4 (n % 2 ^ 32)
  data_lt := by simp

/-- A message header and a payload, as the code writes them, are an encoded record. -/
lemma messageHeader_payload (m : Message) :
    messageHeader m.ID m.timestamp m.dataLength.toNat ++ m.payload = encodeRecord (recordOf m) := by
  simp only [messageHeader, store_htons, encodeRecord, recordOf, Message.length_payload]

lemma messageHeader_sequence (clock : Timestamp) (n : ℕ) :
    messageHeader (messageID 'S' 'E' 'Q' 'N') clock 4 ++ store 4 (htonl (n % 2 ^ 32))
      = encodeRecord (seqnRecord clock n) := by
  simp only [messageHeader, store_htons, store_htonl, encodeRecord, seqnRecord, length_beBytes]

/-! ## The journal -/

/-- An entry of the journal: a record, and whether it was logged through `log_write`. -/
structure Entry where
  toNet : Bool
  record : Record

/-- The records of a list of entries. -/
def allRecords (entries : List Entry) : List Record := entries.map Entry.record

/-- The records of the entries logged through `log_write`. -/
def netRecords (entries : List Entry) : List Record :=
  (entries.filter Entry.toNet).map Entry.record

/-- A segment that has been written out: it holds an entry, and its network records fit. -/
structure Segment where
  stamp : Timestamp
  entries : List Entry
  entries_ne_nil : entries ≠ []
  net_le : (recordCodec.encodeAll (netRecords entries)).length ≤ P_LIMIT

/-- What the logger has been told: segments written out, and entries pending, which fit the
two buffers. -/
structure Journal where
  closed : List Segment
  pending : List Entry
  disk_le : (recordCodec.encodeAll (allRecords pending)).length ≤ sizeofDiskLogBuffer
  net_le : (recordCodec.encodeAll (netRecords pending)).length ≤ P_LIMIT

namespace Journal

/-- Everything logged, in order. -/
def entries (j : Journal) : List Entry := j.closed.flatMap Segment.entries ++ j.pending

def empty : Journal where
  closed := []
  pending := []
  disk_le := Nat.zero_le _
  net_le := Nat.zero_le _

/-- Close the pending segment, if it holds anything. -/
def flush (stamp : Timestamp) (j : Journal) : Journal :=
  if h : j.pending = [] then j
  else
    { closed := j.closed ++ [⟨stamp, j.pending, h, j.net_le⟩]
      pending := []
      disk_le := Nat.zero_le _
      net_le := Nat.zero_le _ }

@[simp] lemma entries_flush (stamp : Timestamp) (j : Journal) :
    (j.flush stamp).entries = j.entries := by
  unfold flush
  split_ifs with h
  · rfl
  · simp [entries]

@[simp] lemma pending_flush (stamp : Timestamp) (j : Journal) : (j.flush stamp).pending = [] := by
  unfold flush
  split_ifs with h
  · exact h
  · rfl

/-- Log one more entry, if it still fits. -/
def append (j : Journal) (e : Entry)
    (hdisk : (recordCodec.encodeAll (allRecords (j.pending ++ [e]))).length ≤ sizeofDiskLogBuffer)
    (hnet : (recordCodec.encodeAll (netRecords (j.pending ++ [e]))).length ≤ P_LIMIT) :
    Journal where
  closed := j.closed
  pending := j.pending ++ [e]
  disk_le := hdisk
  net_le := hnet

lemma entries_append (j : Journal) (e : Entry) (hdisk hnet) :
    (j.append e hdisk hnet).entries = j.entries ++ [e] := by
  simp [entries, append]

end Journal

/-! ## Buffers and system calls of a journal -/

/-- The writes among the system calls. -/
def writevs (out : List Output) : List (Fd × Bytes) :=
  out.filterMap fun
    | .writev fd bytes => some (fd, bytes)
    | .close _ => none

/-- The two writes of the `n`-th segment: the disk gets the SEQN record and all records, the
network the number and the network records. -/
def segmentWrites (seg : Segment) (n : ℕ) : List (Fd × Bytes) :=
  [(.disk, recordCodec.encodeAll (seqnRecord seg.stamp n :: allRecords seg.entries)),
    (.net, beBytes 4 (n % 2 ^ 32) ++ recordCodec.encodeAll (netRecords seg.entries))]

/-- How the state and the system calls stand for a journal. -/
structure Represents (j : Journal) (s : State) (out : List Output) : Prop where
  disk : s.diskLogBuffer = recordCodec.encodeAll (allRecords j.pending)
  net : s.logBuffer = recordCodec.encodeAll (netRecords j.pending)
  sequence : s.sequence = j.closed.length % 2 ^ 32
  writes : writevs out = j.closed.zipIdx.flatMap fun (seg, n) => segmentWrites seg n

lemma represents_init : Represents .empty loggerInit [] := ⟨rfl, rfl, rfl, rfl⟩

lemma writevs_append (out out' : List Output) :
    writevs (out ++ out') = writevs out ++ writevs out' :=
  List.filterMap_append

lemma allRecords_append (es fs : List Entry) :
    allRecords (es ++ fs) = allRecords es ++ allRecords fs := List.map_append

lemma netRecords_append (es fs : List Entry) :
    netRecords (es ++ fs) = netRecords es ++ netRecords fs := by
  simp only [netRecords, List.filter_append, List.map_append]

/-- `flush_log` closes the pending segment. -/
lemma flushLog_represents {j : Journal} {s : State} {out : List Output} (h : Represents j s out)
    (clock : Timestamp) :
    Represents (j.flush clock) (flushLog clock s).1 (out ++ (flushLog clock s).2) := by
  unfold flushLog Journal.flush
  by_cases hpending : j.pending = []
  · have hdisk : s.diskLogBuffer.length = 0 := by
      rw [h.disk, hpending]
      rfl
    rw [if_pos hdisk, dif_pos hpending, List.append_nil]
    exact h
  · have hdisk : s.diskLogBuffer.length ≠ 0 := by
      rw [h.disk, Ne, List.length_eq_zero_iff, Codec.encodeAll_eq_nil_iff]
      simpa [allRecords] using hpending
    rw [if_neg hdisk, dif_neg hpending]
    refine ⟨rfl, rfl, ?_, ?_⟩
    · show (s.sequence + 1) % 2 ^ 32 = (j.closed ++ [_]).length % 2 ^ 32
      rw [h.sequence, List.length_append, List.length_singleton]
      omega
    · -- the two writes of this flush are those of the segment it closes
      rw [writevs_append, h.writes, List.zipIdx_append, List.flatMap_append]
      congr 1
      simp only [writevs, List.zipIdx_singleton, List.flatMap_singleton, segmentWrites,
        Nat.zero_add]
      rw [h.sequence, messageHeader_sequence, store_htonl, h.disk, h.net, Codec.encodeAll_cons]
      rfl

/-- A flush leaves both buffers empty. -/
lemma flushLog_empty {j : Journal} {s : State} {out : List Output} (h : Represents j s out)
    (clock : Timestamp) :
    (flushLog clock s).1.diskLogBuffer = [] ∧ (flushLog clock s).1.logBuffer = [] := by
  have hflush := flushLog_represents h clock
  rw [hflush.disk, hflush.net, Journal.pending_flush]
  exact ⟨rfl, rfl⟩

/-- Making room on the disk side keeps everything logged. -/
lemma ensureDiskLogSpace_represents {j : Journal} {s : State} {out : List Output}
    (h : Represents j s out) (clock : Timestamp) {len : ℕ} (hlen : len ≤ sizeofDiskLogBuffer) :
    ∃ j', Represents j' (ensureDiskLogSpace clock len s).1
        (out ++ (ensureDiskLogSpace clock len s).2) ∧
      j'.entries = j.entries ∧
      (ensureDiskLogSpace clock len s).1.diskLogBuffer.length + len ≤ sizeofDiskLogBuffer := by
  unfold ensureDiskLogSpace
  by_cases hfull : s.diskLogBuffer.length + len > sizeofDiskLogBuffer
  · rw [if_pos hfull]
    refine ⟨j.flush clock, flushLog_represents h clock, Journal.entries_flush clock j, ?_⟩
    rw [(flushLog_empty h clock).1, List.length_nil]
    omega
  · rw [if_neg hfull, List.append_nil]
    exact ⟨j, h, rfl, Nat.le_of_not_lt hfull⟩

/-- Making room on both sides keeps everything logged. -/
lemma ensureNetLogSpace_represents {j : Journal} {s : State} {out : List Output}
    (h : Represents j s out) (clock : Timestamp) {len : ℕ} (hlen : len ≤ P_LIMIT) :
    ∃ j', Represents j' (ensureNetLogSpace clock len s).1
        (out ++ (ensureNetLogSpace clock len s).2) ∧
      j'.entries = j.entries ∧
      (ensureNetLogSpace clock len s).1.diskLogBuffer.length + len ≤ sizeofDiskLogBuffer ∧
      (ensureNetLogSpace clock len s).1.logBuffer.length + len ≤ P_LIMIT := by
  have hdisk : len ≤ sizeofDiskLogBuffer := hlen.trans (by decide)
  obtain ⟨j', hj', hentries, hroom⟩ := ensureDiskLogSpace_represents h clock hdisk
  unfold ensureNetLogSpace
  by_cases hfull : (ensureDiskLogSpace clock len s).1.logBuffer.length + len > P_LIMIT
  · simp only [if_pos hfull]
    have hempty := flushLog_empty hj' clock
    refine ⟨j'.flush clock, ?_, ?_, ?_, ?_⟩
    · rw [← List.append_assoc]
      exact flushLog_represents hj' clock
    · rw [Journal.entries_flush, hentries]
    · rw [hempty.1, List.length_nil]
      omega
    · rw [hempty.2, List.length_nil]
      omega
  · simp only [if_neg hfull]
    exact ⟨j', hj', hentries, hroom, Nat.le_of_not_lt hfull⟩

/-- The size of the record of a message. -/
lemma length_encodeRecord_recordOf (m : Message) :
    (encodeRecord (recordOf m)).length = sizeofMessageHeader + m.dataLength.toNat := by
  rw [length_encodeRecord, recordOf, Message.length_payload]

/-- `log_write_disk_only` makes room, then appends the record. -/
lemma logWriteDiskOnly_eq (clock : Timestamp) (m : Message) (s : State) :
    logWriteDiskOnly clock m s =
      ({ (ensureDiskLogSpace clock (encodeRecord (recordOf m)).length s).1 with
          diskLogBuffer := (ensureDiskLogSpace clock (encodeRecord (recordOf m)).length
            s).1.diskLogBuffer ++ encodeRecord (recordOf m) },
        (ensureDiskLogSpace clock (encodeRecord (recordOf m)).length s).2) := by
  rw [length_encodeRecord_recordOf, ← messageHeader_payload]
  rfl

/-- `log_write` makes room on both sides, then appends the record to both buffers: the nested
call finds its room and does not flush between the two copies. -/
lemma logWrite_eq (clock : Timestamp) (m : Message) (s : State)
    (hroom : (ensureNetLogSpace clock (encodeRecord (recordOf m)).length s).1.diskLogBuffer.length
      + (encodeRecord (recordOf m)).length ≤ sizeofDiskLogBuffer) :
    logWrite clock m s =
      ({ (ensureNetLogSpace clock (encodeRecord (recordOf m)).length s).1 with
          diskLogBuffer := (ensureNetLogSpace clock (encodeRecord (recordOf m)).length
            s).1.diskLogBuffer ++ encodeRecord (recordOf m)
          logBuffer := (ensureNetLogSpace clock (encodeRecord (recordOf m)).length
            s).1.logBuffer ++ encodeRecord (recordOf m) },
        (ensureNetLogSpace clock (encodeRecord (recordOf m)).length s).2) := by
  unfold logWrite
  simp only [← length_encodeRecord_recordOf]
  generalize ensureNetLogSpace clock (encodeRecord (recordOf m)).length s = r at hroom ⊢
  have hnested : ensureDiskLogSpace clock (encodeRecord (recordOf m)).length r.1 = (r.1, []) := by
    unfold ensureDiskLogSpace
    rw [if_neg (Nat.not_lt_of_le hroom)]
  rw [logWriteDiskOnly_eq, hnested]
  simp only [List.drop_left, memread_length, List.append_nil]

/-- Appending an entry's record to the buffers it belongs in logs the entry. -/
lemma represents_append {j : Journal} {s : State} {out : List Output}
    (h : Represents j s out) (e : Entry)
    (hdisk : s.diskLogBuffer.length + (encodeRecord e.record).length ≤ sizeofDiskLogBuffer)
    (hnet : (s.logBuffer ++ recordCodec.encodeAll (netRecords [e])).length ≤ P_LIMIT) :
    ∃ j', Represents j'
        { s with
          diskLogBuffer := s.diskLogBuffer ++ encodeRecord e.record
          logBuffer := s.logBuffer ++ recordCodec.encodeAll (netRecords [e]) } out ∧
      j'.entries = j.entries ++ [e] := by
  have hall : recordCodec.encodeAll (allRecords (j.pending ++ [e]))
      = s.diskLogBuffer ++ encodeRecord e.record := by
    rw [allRecords_append, Codec.encodeAll_append, h.disk]
    exact congrArg _ (Codec.encodeAll_singleton _ _)
  have hsent : recordCodec.encodeAll (netRecords (j.pending ++ [e]))
      = s.logBuffer ++ recordCodec.encodeAll (netRecords [e]) := by
    rw [netRecords_append, Codec.encodeAll_append, h.net]
  refine ⟨j.append e ?_ ?_, ⟨hall.symm, hsent.symm, h.sequence, h.writes⟩,
    Journal.entries_append _ _ _ _⟩
  · rw [hall, List.length_append]
    exact hdisk
  · rw [hsent]
    exact hnet

/-- An entry for the disk alone leaves the network buffer as it is. -/
lemma represents_append_disk {j : Journal} {s : State} {out : List Output}
    (h : Represents j s out) (r : Record)
    (hroom : s.diskLogBuffer.length + (encodeRecord r).length ≤ sizeofDiskLogBuffer) :
    ∃ j', Represents j' { s with diskLogBuffer := s.diskLogBuffer ++ encodeRecord r } out ∧
      j'.entries = j.entries ++ [⟨false, r⟩] := by
  have hempty : s.logBuffer ++ recordCodec.encodeAll (netRecords [⟨false, r⟩]) = s.logBuffer :=
    List.append_nil _
  have happend := represents_append h ⟨false, r⟩ hroom (by rw [hempty, h.net]; exact j.net_le)
  rwa [hempty] at happend

lemma represents_append_net {j : Journal} {s : State} {out : List Output}
    (h : Represents j s out) (r : Record)
    (hdisk : s.diskLogBuffer.length + (encodeRecord r).length ≤ sizeofDiskLogBuffer)
    (hnet : s.logBuffer.length + (encodeRecord r).length ≤ P_LIMIT) :
    ∃ j', Represents j'
        { s with
          diskLogBuffer := s.diskLogBuffer ++ encodeRecord r
          logBuffer := s.logBuffer ++ encodeRecord r } out ∧
      j'.entries = j.entries ++ [⟨true, r⟩] := by
  have hone : recordCodec.encodeAll (netRecords [⟨true, r⟩]) = encodeRecord r :=
    Codec.encodeAll_singleton _ _
  have happend := represents_append h ⟨true, r⟩ hdisk (by rwa [hone, List.length_append])
  rwa [hone] at happend

/-! ## One call -/

/-- A message that fits the buffers it is logged to. -/
def Fits : Event → Prop
  | .logWrite _ m => m.dataLength.toNat ≤ 1416
  | .logWriteDiskOnly _ m => m.dataLength.toNat ≤ 65524
  | .logTimeout _ => True
  | .loggerFinal _ => True

instance : DecidablePred Fits
  | .logWrite _ m => inferInstanceAs (Decidable (m.dataLength.toNat ≤ 1416))
  | .logWriteDiskOnly _ m => inferInstanceAs (Decidable (m.dataLength.toNat ≤ 65524))
  | .logTimeout _ => inferInstanceAs (Decidable True)
  | .loggerFinal _ => inferInstanceAs (Decidable True)

/-- The entries a call logs. -/
def entryOf : Event → List Entry
  | .logWrite _ m => [⟨true, recordOf m⟩]
  | .logWriteDiskOnly _ m => [⟨false, recordOf m⟩]
  | .logTimeout _ => []
  | .loggerFinal _ => []

lemma logWriteDiskOnly_represents {j : Journal} {s : State} {out : List Output}
    (h : Represents j s out) (clock : Timestamp) {m : Message} (hm : m.dataLength.toNat ≤ 65524) :
    ∃ j', Represents j' (logWriteDiskOnly clock m s).1 (out ++ (logWriteDiskOnly clock m s).2) ∧
      j'.entries = j.entries ++ [⟨false, recordOf m⟩] := by
  have hlen : (encodeRecord (recordOf m)).length ≤ sizeofDiskLogBuffer := by
    rw [length_encodeRecord_recordOf]
    unfold sizeofMessageHeader sizeofDiskLogBuffer
    omega
  obtain ⟨j', hj', hentries, hroom⟩ := ensureDiskLogSpace_represents h clock hlen
  obtain ⟨j'', hj'', hentries'⟩ := represents_append_disk hj' (recordOf m) hroom
  rw [logWriteDiskOnly_eq]
  exact ⟨j'', hj'', by rw [hentries', hentries]⟩

lemma logWrite_represents {j : Journal} {s : State} {out : List Output}
    (h : Represents j s out) (clock : Timestamp) {m : Message} (hm : m.dataLength.toNat ≤ 1416) :
    ∃ j', Represents j' (logWrite clock m s).1 (out ++ (logWrite clock m s).2) ∧
      j'.entries = j.entries ++ [⟨true, recordOf m⟩] := by
  have hlen : (encodeRecord (recordOf m)).length ≤ P_LIMIT := by
    rw [length_encodeRecord_recordOf]
    unfold sizeofMessageHeader P_LIMIT LINK_MTU UDP_HEADER_SIZE IPv4_MAX_HEADER_SIZE
    omega
  obtain ⟨j', hj', hentries, hdisk, hnet⟩ := ensureNetLogSpace_represents h clock hlen
  obtain ⟨j'', hj'', hentries'⟩ := represents_append_net hj' (recordOf m) hdisk hnet
  rw [logWrite_eq clock m s hdisk]
  exact ⟨j'', hj'', by rw [hentries', hentries]⟩

/-- Every call that fits acts on the journal: it logs its entry and loses none. -/
theorem step_represents {j : Journal} {s : State} {out : List Output} (h : Represents j s out)
    {e : Event} (hfit : Fits e) :
    ∃ j', Represents j' (step s e).1 (out ++ (step s e).2) ∧
      j'.entries = j.entries ++ entryOf e := by
  cases e with
  | logWrite clock m => exact logWrite_represents h clock hfit
  | logWriteDiskOnly clock m => exact logWriteDiskOnly_represents h clock hfit
  | logTimeout clock =>
    refine ⟨j.flush clock, flushLog_represents h clock, ?_⟩
    rw [Journal.entries_flush, entryOf, List.append_nil]
  | loggerFinal clock =>
    have hflush := flushLog_represents h clock
    refine ⟨j.flush clock, ⟨hflush.disk, hflush.net, hflush.sequence, ?_⟩, ?_⟩
    · show writevs (out ++ ((flushLog clock s).2 ++ [.close .disk, .close .net])) = _
      rw [← List.append_assoc, writevs_append, hflush.writes]
      exact List.append_nil _
    · rw [Journal.entries_flush, entryOf, List.append_nil]

/-! ## Whole runs -/

/-- The entries logged over a run. -/
def logged (es : List Event) : List Entry := es.flatMap entryOf

/-- Over a run whose messages fit, the logger represents a journal of everything logged. -/
theorem run_represents (es : List Event) (hfit : ∀ e ∈ es, Fits e) :
    ∃ j, Represents j (machine.run es) (machine.outputs es) ∧ j.entries = logged es := by
  revert hfit
  refine machine.run_induction (P := fun es s out => (∀ e ∈ es, Fits e) →
    ∃ j, Represents j s out ∧ j.entries = logged es) ?_ ?_ es
  · exact fun _ => ⟨.empty, represents_init, rfl⟩
  · intro es e ih hfit
    obtain ⟨j, hj, hentries⟩ := ih fun f hf => hfit f (List.mem_append_left _ hf)
    obtain ⟨j', hj', hentries'⟩ := step_represents hj (hfit e (by simp))
    refine ⟨j', hj', ?_⟩
    rw [hentries', hentries]
    simp [logged]

/-! ## Bounds -/

/-- What is in use of the two buffers lies within them. -/
def InBounds (s : State) : Prop :=
  s.logBuffer.length ≤ P_LIMIT ∧ s.diskLogBuffer.length ≤ sizeofDiskLogBuffer

lemma inBounds_of_represents {j : Journal} {s : State} {out : List Output}
    (h : Represents j s out) : InBounds s := by
  rw [InBounds, h.net, h.disk]
  exact ⟨j.net_le, j.disk_le⟩

/-- A record is copied to the disk buffer whether it fits or not. -/
lemma le_length_logWriteDiskOnly (clock : Timestamp) (m : Message) (s : State) :
    sizeofMessageHeader + m.dataLength.toNat ≤
      (logWriteDiskOnly clock m s).1.diskLogBuffer.length := by
  rw [logWriteDiskOnly_eq, ← length_encodeRecord_recordOf]
  simp only [List.length_append]
  omega

lemma le_length_logWrite (clock : Timestamp) (m : Message) (s : State) :
    sizeofMessageHeader + m.dataLength.toNat ≤ (logWrite clock m s).1.logBuffer.length := by
  unfold logWrite
  simp only [List.length_append, length_memread]
  omega

/-- A call that keeps to the buffers logs a message that fits. -/
lemma fits_of_inBounds {s : State} {e : Event} (h : InBounds (step s e).1) : Fits e := by
  cases e with
  | logWrite clock m =>
    have hlen := (le_length_logWrite clock m s).trans h.1
    unfold sizeofMessageHeader P_LIMIT LINK_MTU UDP_HEADER_SIZE IPv4_MAX_HEADER_SIZE at hlen
    show m.dataLength.toNat ≤ 1416
    omega
  | logWriteDiskOnly clock m =>
    have hlen := (le_length_logWriteDiskOnly clock m s).trans h.2
    unfold sizeofMessageHeader sizeofDiskLogBuffer at hlen
    show m.dataLength.toNat ≤ 65524
    omega
  | logTimeout clock => trivial
  | loggerFinal clock => trivial

/-- **The buffers are kept to exactly when every message fits.** The logger itself rejects
nothing: after a flush it copies a record of any size. -/
theorem along_inBounds_iff (es : List Event) :
    machine.Along (fun s e => InBounds (machine.step s e).1) machine.init es ↔
      ∀ e ∈ es, Fits e := by
  rw [Machine.along_iff]
  constructor
  · -- the record of a message is in use right after it has been logged
    intro h e he
    obtain ⟨pre, post, hsplit⟩ := List.append_of_mem he
    exact fits_of_inBounds (h pre e post hsplit)
  · -- a run whose messages fit represents a journal, whose pending records fit
    intro hfit pre e post hsplit
    have hpre : ∀ e' ∈ pre ++ [e], Fits e' := by
      intro e' he'
      apply hfit
      rw [hsplit, List.append_cons]
      exact List.mem_append_left _ he'
    obtain ⟨j, hj, -⟩ := run_represents _ hpre
    have hbounds := inBounds_of_represents hj
    rwa [Machine.run_snoc] at hbounds

/-- A final flush leaves nothing pending. -/
lemma pending_of_final {j : Journal} (es : List Event) (clock : Timestamp)
    (hfit : ∀ e ∈ es, Fits e)
    (h : Represents j (machine.run (es ++ [.loggerFinal clock]))
      (machine.outputs (es ++ [.loggerFinal clock]))) : j.pending = [] := by
  obtain ⟨j₀, hj₀, -⟩ := run_represents es hfit
  have hempty := (flushLog_empty hj₀ clock).1
  have hdisk := h.disk
  rw [Machine.run_snoc] at hdisk
  change (flushLog clock (machine.run es)).1.diskLogBuffer = _ at hdisk
  rw [hempty, eq_comm, Codec.encodeAll_eq_nil_iff] at hdisk
  exact List.map_eq_nil_iff.mp hdisk

/-! ## The log file -/

/-- The byte strings written to a descriptor, write by write. -/
def writesTo (fd : Fd) (out : List Output) : List Bytes :=
  (writevs out).filterMap fun w => if w.1 = fd then some w.2 else none

/-- The contents of the log file, every write being complete. -/
def diskBytes (out : List Output) : Bytes := (writesTo .disk out).flatten

/-- The file of a run of segments: each is its SEQN record and its records. -/
lemma diskBytes_segments (closed : List (Segment × ℕ)) :
    ((closed.flatMap fun (seg, n) => segmentWrites seg n).filterMap
        fun w => if w.1 = Fd.disk then some w.2 else none).flatten =
      recordCodec.encodeAll
        (closed.flatMap fun (seg, n) => seqnRecord seg.stamp n :: allRecords seg.entries) := by
  induction closed with
  | nil => rfl
  | cons c closed ih =>
    rw [List.flatMap_cons, List.filterMap_append, List.flatten_append, ih, List.flatMap_cons,
      Codec.encodeAll_append]
    congr 1
    simp [segmentWrites]

/-- **The log file loses nothing.** After a run whose messages fit, ended by `logger_final`,
the log file reads as consecutive records with nothing left over: in front of each group of
logged records stands a SEQN record with the number of the group, no group is empty, and the
groups together are the messages logged, each once and in call order. -/
theorem log_file_loses_nothing (es : List Event) (hfit : ∀ e ∈ es, Fits e) (clock : Timestamp) :
    ∃ groups : List (Timestamp × List Record),
      recordCodec.decodeAll (diskBytes (machine.outputs (es ++ [.loggerFinal clock]))) =
        some (groups.zipIdx.flatMap fun (group, n) => seqnRecord group.1 n :: group.2) ∧
      (∀ group ∈ groups, group.2 ≠ []) ∧
      groups.flatMap Prod.snd = (logged es).map Entry.record := by
  have hfit' : ∀ e ∈ es ++ [.loggerFinal clock], Fits e := by
    intro e he
    rcases List.mem_append.mp he with he | he
    · exact hfit e he
    · rw [List.mem_singleton.mp he]
      trivial
  obtain ⟨j, hj, hentries⟩ := run_represents _ hfit'
  have hpending := pending_of_final es clock hfit hj
  refine ⟨j.closed.map fun seg => (seg.stamp, allRecords seg.entries), ?_, ?_, ?_⟩
  · rw [diskBytes, writesTo, hj.writes, diskBytes_segments, Codec.decodeAll_encodeAll]
    congr 1
    rw [List.zipIdx_map, List.flatMap_map]
    rfl
  · intro group hgroup
    obtain ⟨seg, -, rfl⟩ := List.mem_map.mp hgroup
    simpa [allRecords] using seg.entries_ne_nil
  · rw [Journal.entries, hpending, List.append_nil] at hentries
    have hlogged : logged (es ++ [.loggerFinal clock]) = logged es := by
      simp [logged, entryOf]
    rw [← hlogged, ← hentries, List.flatMap_map, List.map_flatMap]
    rfl

/-- A message of one byte. -/
def oneByteMessage (b : UInt8) : Message where
  ID := messageID 'J' 'G' 'P' 'S'
  timestamp := #v[0, 0, 0, 0, 0, 1]
  dataLength := 1
  data := [b]

/-- Four messages, of which two are for the disk only, and three timers, one of them with nothing to
flush. -/
def mixedCalls : List Event :=
  [.logWrite #v[0, 0, 0, 0, 0, 2] (oneByteMessage 1),
    .logWriteDiskOnly #v[0, 0, 0, 0, 0, 3] (oneByteMessage 2), .logTimeout #v[0, 0, 0, 0, 0, 4],
    .logTimeout #v[0, 0, 0, 0, 0, 5], .logWrite #v[0, 0, 0, 0, 0, 6] (oneByteMessage 3),
    .logTimeout #v[0, 0, 0, 0, 0, 7], .logWriteDiskOnly #v[0, 0, 0, 0, 0, 8] (oneByteMessage 4)]

/-- Their file reads as three groups. -/
theorem log_file_loses_nothing_mixed :
    recordCodec.decodeAll (diskBytes (machine.outputs
        (mixedCalls ++ [.loggerFinal #v[0, 0, 0, 0, 0, 9]]))) =
        some [seqnRecord #v[0, 0, 0, 0, 0, 4] 0, recordOf (oneByteMessage 1),
          recordOf (oneByteMessage 2), seqnRecord #v[0, 0, 0, 0, 0, 7] 1,
          recordOf (oneByteMessage 3), seqnRecord #v[0, 0, 0, 0, 0, 9] 2,
          recordOf (oneByteMessage 4)] ∧
      ∃ groups : List (Timestamp × List Record),
        recordCodec.decodeAll (diskBytes (machine.outputs
          (mixedCalls ++ [.loggerFinal #v[0, 0, 0, 0, 0, 9]]))) =
            some (groups.zipIdx.flatMap fun (group, n) => seqnRecord group.1 n :: group.2) ∧
        groups.flatMap Prod.snd = [recordOf (oneByteMessage 1), recordOf (oneByteMessage 2),
          recordOf (oneByteMessage 3), recordOf (oneByteMessage 4)] := by
  obtain ⟨groups, hdecode, -, hgroups⟩ :=
    log_file_loses_nothing mixedCalls (by decide) #v[0, 0, 0, 0, 0, 9]
  exact ⟨by decide +kernel, groups, hdecode, hgroups⟩

/-! ## The telemetry -/

/-- **Telemetry mirrors the log.** After a run whose messages fit, everything logged is split
into closed segments and what is still pending. The writes are two for each closed segment:
the disk gets its SEQN record and all its records, the network one datagram of at most 1432
bytes with the same number and, whole and in order, the records logged through `log_write`.
After a final flush nothing is pending, so the datagrams hold every such record. Every `writev` is
taken to be complete, also one behind a `close`. -/
theorem telemetry_mirrors_log (es : List Event) (hfit : ∀ e ∈ es, Fits e) :
    ∃ (closed : List Segment) (pending : List Entry),
      closed.flatMap Segment.entries ++ pending = logged es ∧
      writevs (machine.outputs es) = (closed.zipIdx.flatMap fun (seg, n) =>
        [(Fd.disk, encodeRecord (seqnRecord seg.stamp n) ++
            (seg.entries.map Entry.record).flatMap encodeRecord),
          (Fd.net, beBytes 4 (n % 2 ^ 32) ++
            ((seg.entries.filter Entry.toNet).map Entry.record).flatMap encodeRecord)]) ∧
      (∀ seg ∈ closed, ∀ n, (beBytes 4 (n % 2 ^ 32) ++
        ((seg.entries.filter Entry.toNet).map Entry.record).flatMap encodeRecord).length ≤ 1432) ∧
      ∀ es' clock, es = es' ++ [.loggerFinal clock] → pending = [] ∧
        (closed.flatMap fun seg => (seg.entries.filter Entry.toNet).map Entry.record) =
          ((logged es).filter Entry.toNet).map Entry.record := by
  obtain ⟨j, hj, hentries⟩ := run_represents es hfit
  refine ⟨j.closed, j.pending, hentries, hj.writes, ?_, ?_⟩
  · intro seg _ n
    have hle := seg.net_le
    rw [List.length_append, length_beBytes]
    have hlimit : P_LIMIT = 1428 := by decide
    rw [hlimit] at hle
    exact Nat.add_le_add_left hle 4
  · rintro es' clock rfl
    have hpending := pending_of_final es' clock
      (fun e he => hfit e (List.mem_append_left _ he)) hj
    refine ⟨hpending, ?_⟩
    rw [← hentries, Journal.entries, hpending, List.append_nil, List.filter_flatMap,
      List.map_flatMap]

/-- The telemetry of these calls: the third group has nothing for the ground but its number. -/
theorem telemetry_mirrors_log_mixed :
    writesTo .net (machine.outputs (mixedCalls ++ [.loggerFinal #v[0, 0, 0, 0, 0, 9]])) =
        [[0, 0, 0, 0] ++ encodeRecord (recordOf (oneByteMessage 1)),
          [0, 0, 0, 1] ++ encodeRecord (recordOf (oneByteMessage 3)), [0, 0, 0, 2]] ∧
      ∃ closed : List Segment,
        writevs (machine.outputs (mixedCalls ++ [.loggerFinal #v[0, 0, 0, 0, 0, 9]])) =
          (closed.zipIdx.flatMap fun (seg, n) =>
            [(Fd.disk, encodeRecord (seqnRecord seg.stamp n) ++
                (seg.entries.map Entry.record).flatMap encodeRecord),
              (Fd.net, beBytes 4 (n % 2 ^ 32) ++
                ((seg.entries.filter Entry.toNet).map Entry.record).flatMap encodeRecord)]) ∧
        (closed.flatMap fun seg => (seg.entries.filter Entry.toNet).map Entry.record) =
          [recordOf (oneByteMessage 1), recordOf (oneByteMessage 3)] := by
  obtain ⟨closed, pending, -, hwrites, -, hfinal⟩ := telemetry_mirrors_log
    (mixedCalls ++ [.loggerFinal #v[0, 0, 0, 0, 0, 9]]) (by decide)
  exact ⟨by decide +kernel, closed, hwrites, (hfinal _ _ rfl).2⟩

end Logger
end FlightComputer
