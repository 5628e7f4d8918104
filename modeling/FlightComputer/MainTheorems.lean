import FlightComputer.Main
import FlightComputer.ArmTheorems
import FlightComputer.EthmuxTheorems
import FlightComputer.GpsFrames
import FlightComputer.LoggerTheorems
import FlightComputer.RollControlTheorems

/-!
# Bounds of the whole system

No module checks how long a message is, so whether a message fits its receiver is decided by
its senders: the lengths `demux` admits bound what reaches the GPS framer, and these, the
fixed sizes of the packets and the lengths of the frames bound what reaches the logger.
`FitsLog` is the bound on the logger's side. Each receiver of the system keeps to it, in
whatever state it is called, but for the GPS framer on a frame without a packet, whose length
wraps around.

What a receiver calls is bounded by what `arm.c` and `rollcontrol.c` log (`Admits`) and by the
message it is passed (`AdmitsMessage`), whatever the property of the calls is.
-/

namespace FlightComputer
namespace Main

open Ethmux (Packet Source WellFormed deliveries delivery numbers nextNumber)

/-! ## The GPS buffer -/

/-- The messages passed on to `cots_raw_in`. -/
def cotsMessages (starttime : Timespec) (ps : List Packet) : List Message :=
  deliveries .GPSCOTS ((Ethmux.machine starttime).outputs ps)

/-- **The GPS buffer is kept to exactly when no datagram is too long.** What is passed on
has at most 1496 bytes; every copy ends within `buf`, and every call leaves `cur` within
`buf`, exactly when each well-formed GPS datagram that is not late has at most 516 bytes, so
that its payload fits the empty buffer. -/
theorem gps_buffer_holds_iff (starttime : Timespec) (ps : List Packet) :
    (∀ m ∈ cotsMessages starttime ps,
        m.data.length = m.dataLength.toNat ∧ m.dataLength.toNat ≤ 1496) ∧
      (Gps.machine.Along Gps.InBuffer Gps.machine.init (cotsMessages starttime ps) ↔
        ∀ pre p post, ps = pre ++ p :: post → WellFormed .GPSCOTS p →
          nextNumber (numbers .GPSCOTS pre) ≤ p.number → p.received.length ≤ 516) := by
  have hlen : ∀ p, (delivery starttime .GPSCOTS p).dataLength.toNat = p.received.length - 4 :=
    Ethmux.toNat_dataLength_delivery starttime
  constructor
  · unfold cotsMessages
    rw [Ethmux.forall_mem_deliveries_iff]
    intro pre p post hsplit hwell hnext
    have hle := Ethmux.length_received_le p
    rw [hlen]
    refine ⟨?_, by omega⟩
    show (p.received.drop 4).length = _
    rw [List.length_drop]
  · rw [Gps.along_inBuffer_iff]
    unfold cotsMessages
    rw [Ethmux.forall_mem_deliveries_iff]
    have hbound : ∀ p : Packet, (delivery starttime .GPSCOTS p).dataLength.toNat ≤ Gps.sizeofBuf ↔
        p.received.length ≤ 516 := by
      intro p
      rw [hlen]
      unfold Gps.sizeofBuf
      omega
    simp only [hbound]

/-- A payload of 513 bytes. -/
theorem gps_buffer_overrun :
    ¬Gps.machine.Along Gps.InBuffer Gps.machine.init
      (cotsMessages ⟨0, 0⟩
        [Ethmux.datagram Ethmux.GPS_COTS ([0, 0, 0, 0] ++ List.replicate 513 0)]) := by
  rw [Gps.along_inBuffer_iff]
  decide +kernel

/-! ## What the receivers call -/

variable {K : Type}

open Receiver

variable (env : Env K)

/-- A property of all calls that are made for `arm.c` and `rollcontrol.c`: each stamp is a
reading of the clock. -/
structure Admits (P : Output K → Prop) : Prop where
  rsReceiveAdj : ∀ adj, P (.rsReceiveAdj adj)
  respond : ∀ message, P (.respond message)
  signal : ∀ n n' code, code = "ARM" ∨ code = "SAFE" →
    P (.log (Logger.logReceiveArm (env.clock n) (env.clock n') code))
  roll : ∀ n n' out, RollControl.IsRoll (env.clock n') out →
    P (.log (Logger.logReceiveRc env.doubleBits (env.clock n) out))

/-- A property of the calls that log a message, whichever way. -/
def AdmitsMessage (P : Output K → Prop) (m : Message) : Prop :=
  ∀ n, P (.log (.logWrite (env.clock n) m)) ∧ P (.log (.logWriteDiskOnly (env.clock n) m))

variable {P : Output K → Prop}

/-- Reading the clock calls nothing. -/
lemma calls_getPsasTime {use : Timestamp → Action K} (h : ∀ n, (use (env.clock n)).Calls P) :
    (getPsasTime env use).Calls P :=
  fun s => h s.reads _

/-- A single call to the logger. -/
lemma calls_log {event : Timestamp → Logger.Event} (h : ∀ n, P (.log (event (env.clock n)))) :
    (getPsasTime env fun clock => call [.log (event clock)]).Calls P := by
  apply calls_getPsasTime
  intro n
  apply calls_call
  intro o ho
  rw [List.mem_singleton.mp ho]
  exact h n

lemma calls_logReceiveArm {code : String} (h : Admits env P)
    (hcode : code = "ARM" ∨ code = "SAFE") : (logReceiveArm env code).Calls P := by
  apply calls_getPsasTime
  intro n'
  apply calls_log
  intro n
  exact h.signal n n' code hcode

lemma calls_filterReceive {m : Message} (hm : AdmitsMessage env P m) :
    (filterReceive env m).Calls P := by
  unfold filterReceive
  cases Filter.filterReceive m with
  | filterToGround => exact calls_singleton (calls_log env fun n => (hm n).1)
  | filterToDisk => exact calls_singleton (calls_log env fun n => (hm n).2)

/-- The calls made on behalf of `rollcontrol.c`. -/
lemma calls_rcOutput (h : Admits env P) {n' : ℕ} {out : List (RollControl.Output K)}
    (hout : ∀ m, .rcSendServo m ∈ out → RollControl.IsRoll (env.clock n') m) :
    (inOrder (out.map (rcOutput env))).Calls P := by
  apply calls_inOrder
  intro o ho
  cases o with
  | rcSendServo m =>
    have hlog : (logReceiveRc env m).Calls P := by
      apply calls_log
      intro n
      exact h.roll n n' m (hout m ho)
    apply calls_cons
    · exact calls_call (by simpa using h.rsReceiveAdj m)
    · exact calls_singleton hlog
  | sendServoResponse message => exact calls_call (by simpa using h.respond message)

variable [Field K] [LinearOrder K]

lemma calls_rc (h : Admits env P) {event : Timestamp → RollControl.Event K}
    (hclock : ∀ n, ∀ clock ∈ (event (env.clock n)).clock, clock = env.clock n) :
    (rc env event).Calls P := by
  apply calls_getPsasTime
  intro n s
  have hout : ∀ m, .rcSendServo m ∈ (RollControl.step env.libm s.rc (event (env.clock n))).2 →
      RollControl.IsRoll (env.clock n) m := by
    intro m hm
    obtain ⟨clock, hmem, hroll⟩ := RollControl.isRoll_of_mem_step hm
    rwa [hclock n clock hmem] at hroll
  exact calls_rcOutput env h hout _

lemma calls_rcReceiveArm (h : Admits env P) (signal : String) :
    (rcReceiveArm env signal).Calls P :=
  calls_rc env h fun _ _ hclock => (Option.some.inj hclock).symm

lemma calls_rcRawTestrc (h : Admits env P) (data : Bytes) : (rcRawTestrc env data).Calls P :=
  calls_rc env h fun _ _ hclock => (Option.some.inj hclock).symm

lemma calls_rcRawUmb (h : Admits env P) (m : Message) : (rcRawUmb env m).Calls P :=
  calls_rc env h fun _ _ hclock => by cases hclock

lemma calls_rcReceiveState (h : Admits env P) (m : StateEstimation.Output K) :
    (rcReceiveState env m).Calls P :=
  calls_rc env h fun _ _ hclock => (Option.some.inj hclock).symm

lemma calls_armSendSignal {code : String} (h : Admits env P)
    (hcode : code = "ARM" ∨ code = "SAFE") : (armSendSignal env code).Calls P := by
  apply calls_cons
  · exact calls_rcReceiveArm env h code
  · exact calls_singleton (calls_logReceiveArm env h hcode)

lemma calls_arm (h : Admits env P) (event : Arm.Event) : (arm env event).Calls P := by
  intro s
  apply calls_inOrder
  intro o ho
  cases o with
  | armSendSignal code => exact calls_armSendSignal env h (Arm.code_of_mem_step ho)
  | sendArmResponse message => exact calls_call (by simpa using h.respond message)

lemma calls_stateReceiveImu (h : Admits env P) (m : Message) :
    (stateReceiveImu env m).Calls P := by
  intro s
  apply calls_inOrder
  intro o _
  exact calls_singleton (calls_rcReceiveState env h o)

lemma calls_gpsDataOut (h : Admits env P) {m : Message} (hm : AdmitsMessage env P m) :
    (gpsDataOut env m).Calls P := by
  apply calls_cons
  · exact calls_arm env h _
  · exact calls_singleton (calls_filterReceive env hm)

/-- A message to any receivers but the GPS framer. -/
lemma calls_demuxed (h : Admits env P) {m : Message} (hm : AdmitsMessage env P m)
    {handler : Ethmux.Handler} (hne : handler ≠ .demuxedCOTS) :
    (demuxed env m handler).Calls P := by
  have hlog : (logWrite env m).Calls P := calls_log env fun n => (hm n).1
  cases handler with
  | demuxedADIS =>
    apply calls_cons hlog
    apply calls_cons
    · exact calls_arm env h _
    · exact calls_singleton (calls_stateReceiveImu env h m)
  | demuxedRNHUMB =>
    apply calls_cons
    · exact calls_rcRawUmb env h m
    · exact calls_singleton hlog
  | demuxedJGPS => exact calls_singleton (calls_filterReceive env hm)
  | demuxedCOTS => exact absurd rfl hne
  | demuxedMPU | demuxedMPL | demuxedBMP | demuxedRNH | demuxedFCFH => exact calls_singleton hlog

lemma calls_setCanardAngle (h : Admits env P) (degrees : K) :
    (getPsasTime env fun clock s =>
      inOrder ((RollControl.setCanardAngle clock degrees s.rc).map (rcOutput env)) s).Calls P := by
  apply calls_getPsasTime
  intro n s
  exact calls_rcOutput env h (fun m hm => RollControl.isRoll_of_mem_setCanardAngle hm) _

/-! ## What a record may hold -/

/-- A call of the logger that fits its buffers. -/
def FitsLog : Output K → Prop
  | .log call => Logger.Fits call
  | .rsReceiveAdj _ => True
  | .respond _ => True

omit [Field K] [LinearOrder K] in
/-- The signals and the ROLL messages are small. -/
lemma fits_admits : Admits env FitsLog where
  rsReceiveAdj := fun _ => trivial
  respond := fun _ => trivial
  signal := by
    intro n n' code hcode
    rcases hcode with rfl | rfl
    · show (UInt16.ofNat (strlen "ARM")).toNat ≤ 1416
      decide
    · show (UInt16.ofNat (strlen "SAFE")).toNat ≤ 1416
      decide
  roll := by
    intro n n' out hout
    show out.dataLength.toNat ≤ 1416
    rw [hout.dataLength]
    decide

omit [Field K] [LinearOrder K] in
lemma fits_message {m : Message} (h : m.dataLength.toNat ≤ 1416) : AdmitsMessage env FitsLog m := by
  intro n
  refine ⟨h, ?_⟩
  show m.dataLength.toNat ≤ 65524
  omega

omit [Field K] [LinearOrder K] in
lemma fits_rnhVersionOut {message : Bytes} (h : message.length ≤ 50) :
    (rnhVersionOut env message).Calls FitsLog := by
  apply calls_singleton
  apply calls_getPsasTime
  intro n'
  apply calls_log
  intro n
  show (UInt16.ofNat message.length).toNat ≤ 1416
  rw [UInt16.toNat_ofNat']
  omega

omit [Field K] [LinearOrder K] in
/-- The JGPS messages only go to the disk, where there is more room. -/
lemma fits_filterReceive_jgps {m : Message} (hID : m.ID = messageID 'J' 'G' 'P' 'S')
    (h : m.dataLength.toNat ≤ 65524) : (filterReceive env m).Calls FitsLog := by
  have hdisk : Filter.filterReceive m = .filterToDisk := by
    unfold Filter.filterReceive
    rw [if_pos (Or.inr hID), if_neg]
    rw [hID]
    decide
  unfold filterReceive
  rw [hdisk]
  exact calls_singleton (calls_log env fun _ => h)

omit [Field K] [LinearOrder K] in
/-- Every fixed length is small, but for the one no datagram has. -/
lemma dataLength_le_of_wellFormed {type : Source} {p : Packet} (h : WellFormed type p)
    (hjgps : type ≠ .JGPS) (hcots : type ≠ .GPSCOTS) :
    (delivery env.starttime type p).dataLength.toNat ≤ 1416 := by
  have hlen := Ethmux.length_received_le p
  have hexpected := h.2
  unfold Ethmux.isExpectedLength at hexpected
  rw [Ethmux.toNat_dataLength_delivery]
  cases type <;>
    simp [Ethmux.demuxType, Ethmux.UINT16_MAX, sizeofADIS16405Data, sizeofMPLData,
      sizeofBMP180Data, sizeofRNHHealthData, sizeofRNHPowerData, sizeofRNHAlarms,
      sizeofRNHUmbdet, sizeofFCFHealthData] at hexpected hjgps hcots <;> omega

/-! ## The GPS framer -/

/-- Wherever it is filtered to, a record of 65535 bytes does not fit. -/
lemma exists_not_fits_gpsDataOut {m : Message} (h : m.dataLength.toNat = 65535) (s : State K) :
    ∃ o ∈ (gpsDataOut env m s).2, ¬FitsLog o := by
  have hmem : filterReceive env m ∈ [armReceiveGps env m, filterReceive env m] := by simp
  obtain ⟨s', hs'⟩ := exists_state_of_mem hmem s
  have hfilter : ∃ o ∈ (filterReceive env m s').2, ¬FitsLog o := by
    unfold filterReceive
    cases Filter.filterReceive m with
    | filterToGround =>
      refine ⟨.log (.logWrite (env.clock s'.reads) m), List.mem_singleton.mpr rfl, ?_⟩
      show ¬m.dataLength.toNat ≤ 1416
      omega
    | filterToDisk =>
      refine ⟨.log (.logWriteDiskOnly (env.clock s'.reads) m), List.mem_singleton.mpr rfl, ?_⟩
      show ¬m.dataLength.toNat ≤ 65524
      omega
  obtain ⟨o, ho, hnot⟩ := hfilter
  exact ⟨o, hs' ho, hnot⟩

/-- **The framer keeps to the logger's buffers exactly when no packet is empty.** What it looks
at is the buffer once the message has been copied into it. -/
theorem fits_cotsRawIn_iff (m : Message) (s : State K) :
    (∀ o ∈ (cotsRawIn env m s).2, FitsLog o) ↔
      Gps.NoEmptyFrame (Gps.beforeCopy s.gps m ++ m.payload) := by
  have hcalls : cotsRawIn env m s =
      inOrder ((Gps.venusLoop (Gps.beforeCopy s.gps m ++ m.payload)).1.map fun f =>
        gpsDataOut env (Gps.gpsDataOut m.timestamp f))
        { s with gps := (Gps.cotsRawIn m s.gps).1 } := by
    unfold cotsRawIn Gps.cotsRawIn Gps.sendVenusMessages
    dsimp only
    rw [List.map_map]
    rfl
  rw [hcalls, Gps.noEmptyFrame_iff]
  constructor
  · intro hfits f hf hnil
    have hempty := (Gps.packet_eq_nil_iff hf).mp hnil
    obtain ⟨s', hs'⟩ := exists_state_of_mem
      (List.mem_map_of_mem (f := fun f => gpsDataOut env (Gps.gpsDataOut m.timestamp f)) hf)
      { s with gps := (Gps.cotsRawIn m s.gps).1 }
    obtain ⟨o, ho, hnot⟩ :=
      exists_not_fits_gpsDataOut env (Gps.dataLength_of_empty m.timestamp hempty) s'
    exact hnot (hfits o (hs' ho))
  · intro hne
    apply calls_inOrder
    intro f hf
    apply calls_gpsDataOut env (fits_admits env)
    apply fits_message
    have hle := (Gps.checkFrame_accept (Gps.checkFrame_of_mem hf)).1
    rw [Gps.toNat_dataLength m.timestamp (mt (Gps.packet_eq_nil_iff hf).mpr (hne f hf))]
    omega

/-! ## The demultiplexer -/

lemma fits_sequencedError (port : ℕ) (timestamp : Timestamp) (expected received : ℕ) :
    (ethOutput env (Ethmux.formatSequencedError port timestamp expected received)).Calls
      FitsLog := by
  apply calls_singleton
  apply calls_log
  intro n
  show (UInt16.ofNat sizeofSequenceErrorData).toNat ≤ 1416
  decide

/-- What `demux` passes on for a source other than the GPS stream. -/
lemma fits_demuxed {type : Source} {p : Packet} (h : WellFormed type p) (hne : type ≠ .GPSCOTS) :
    (demuxed env (delivery env.starttime type p) (Ethmux.demuxType type).handler).Calls
      FitsLog := by
  by_cases hjgps : type = .JGPS
  · subst hjgps
    apply calls_singleton
    apply fits_filterReceive_jgps env rfl
    have hlen := Ethmux.length_received_le p
    rw [Ethmux.toNat_dataLength_delivery]
    omega
  · have hm := fits_message env (dataLength_le_of_wellFormed env h hjgps hne)
    exact calls_demuxed env (fits_admits env) hm (Ethmux.handler_ne_demuxedCOTS hne)

/-- The output of `demux` fits, unless it is for the GPS framer. -/
lemma fits_ethOutput {s : State K} {p : Packet} {o : Ethmux.Output}
    (ho : o ∈ (Ethmux.demux env.starttime p s.ethmux).2)
    (hcots : WellFormed .GPSCOTS p → ¬s.ethmux.nextSequence .GPSCOTS ≤ p.number) :
    (ethOutput env o).Calls FitsLog := by
  -- a report, a message of a source, or a command
  rcases Ethmux.mem_step env.starttime ho with
    ⟨expected, received, rfl⟩ | ⟨type, hwell, hnext, rfl⟩ | ⟨buffer, timestamp, rfl⟩ |
      ⟨buffer, timestamp, rfl⟩
  · exact fits_sequencedError env _ _ _ _
  · apply fits_demuxed env hwell
    intro htype
    subst htype
    exact hcots hwell hnext
  · exact calls_singleton (calls_arm env (fits_admits env) _)
  · exact calls_singleton (calls_rcRawTestrc env (fits_admits env) buffer)

/-- A condition on the chunk that a step passes on to the GPS framer, if it passes one on. -/
def OnChunk (P : Message → Prop) (s : State K) : Event K → Prop
  | .datagram p => WellFormed .GPSCOTS p → s.ethmux.nextSequence .GPSCOTS ≤ p.number →
      P (delivery env.starttime .GPSCOTS p)
  | _ => True

/-- The steps in which no frame without a packet is found: those that pass no chunk on, and those
in which every frame in the buffer, with the chunk copied into it, has a packet. -/
def NoEmptyPacket (s : State K) : Event K → Prop :=
  OnChunk env (fun m => Gps.NoEmptyFrame (Gps.beforeCopy s.gps m ++ m.payload)) s

/-- A chunk is scanned in the buffer as it was before the datagram, whether it is reported
as early or not. -/
lemma fits_demux_cots {s : State K} {p : Packet} (hwell : WellFormed .GPSCOTS p)
    (hnext : s.ethmux.nextSequence .GPSCOTS ≤ p.number) :
    (∀ o ∈ (demux env p s).2, FitsLog o) ↔ Gps.NoEmptyFrame
      (Gps.beforeCopy s.gps (delivery env.starttime .GPSCOTS p) ++
        (delivery env.starttime .GPSCOTS p).payload) := by
  have hstep := Ethmux.step_wellFormed env.starttime s.ethmux hwell
  change Ethmux.demux env.starttime p s.ethmux = _ at hstep
  rw [if_neg (not_lt.mpr hnext)] at hstep
  have hcots : ∀ s' : State K, s'.gps = s.gps →
      ((∀ o ∈ (inOrder [ethOutput env (Ethmux.callHandler .GPSCOTS
          (toPsasTime env.starttime p.ts) (p.received.drop 4))] s').2, FitsLog o) ↔
        Gps.NoEmptyFrame (Gps.beforeCopy s.gps (delivery env.starttime .GPSCOTS p) ++
          (delivery env.starttime .GPSCOTS p).payload)) := by
    intro s' hgps
    have hiff := fits_cotsRawIn_iff env (delivery env.starttime .GPSCOTS p) s'
    rw [hgps] at hiff
    rw [← hiff]
    change (∀ o ∈ ((cotsRawIn env (delivery env.starttime .GPSCOTS p) s').2 ++ []) ++ [],
      FitsLog o) ↔ _
    rw [List.append_nil, List.append_nil]
  unfold demux
  dsimp only
  rw [hstep]
  by_cases hgap : p.number = s.ethmux.nextSequence .GPSCOTS
  · rw [if_pos hgap]
    exact hcots _ rfl
  · rw [if_neg hgap, List.map_append, inOrder_append, List.forall_mem_append]
    -- the report before it is small, and leaves the GPS buffer alone
    have hreport : ∀ s', ∀ o ∈ (inOrder [ethOutput env (Ethmux.formatSequencedError p.port
        (toPsasTime env.starttime p.ts) (s.ethmux.nextSequence .GPSCOTS) p.number)] s').2,
        FitsLog o := calls_singleton (fits_sequencedError env _ _ _ _)
    constructor
    · intro h
      exact (hcots _ (by rfl)).mp h.2
    · intro h
      exact ⟨hreport _, (hcots _ (by rfl)).mpr h⟩

/-- **One step.** Its records fit exactly when it finds no frame without a packet. -/
theorem fits_step_iff (s : State K) (e : Event K) :
    (∀ o ∈ ((machine env).step s e).2, FitsLog o) ↔ NoEmptyPacket env s e := by
  cases e with
  | datagram p =>
    show (∀ o ∈ (demux env p s).2, FitsLog o) ↔ _
    by_cases hcots : WellFormed .GPSCOTS p ∧ s.ethmux.nextSequence .GPSCOTS ≤ p.number
    · rw [fits_demux_cots env hcots.1 hcots.2]
      unfold NoEmptyPacket OnChunk
      simp only [hcots, true_imp_iff]
    · have hfits : ∀ o ∈ (demux env p s).2, FitsLog o := by
        apply calls_inOrder
        intro o ho
        exact fits_ethOutput env ho fun hwell hnext => hcots ⟨hwell, hnext⟩
      exact iff_of_true hfits fun hwell hnext => absurd ⟨hwell, hnext⟩ hcots
  | logTimeout =>
    apply iff_of_true _ trivial
    have hflush : (logTimeout env).Calls FitsLog := by
      apply calls_log
      intro n
      trivial
    exact hflush s
  | versionCallback reply =>
    apply iff_of_true _ trivial
    exact fits_rnhVersionOut env (List.length_take_le 50 reply) s
  | armSignal armed =>
    apply iff_of_true _ trivial
    apply calls_armSendSignal env (fits_admits env)
    cases armed with
    | true => exact Or.inl rfl
    | false => exact Or.inr rfl
  | setCanardAngle degrees =>
    apply iff_of_true _ trivial
    exact calls_setCanardAngle env (fits_admits env) degrees s

/-! ## The log buffers -/

/-- The calls of the logger, in order. -/
def logCalls (out : List (Output K)) : List Logger.Event :=
  out.filterMap fun
    | .log call => some call
    | _ => none

omit [Field K] [LinearOrder K] in
lemma mem_logCalls {out : List (Output K)} {call : Logger.Event} :
    call ∈ logCalls out ↔ .log call ∈ out := by
  rw [logCalls, List.mem_filterMap]
  constructor
  · rintro ⟨o, ho, hlog⟩
    cases o with
    | log call' => exact Option.some.inj hlog ▸ ho
    | rsReceiveAdj adj => cases hlog
    | respond message => cases hlog
  · intro h
    exact ⟨_, h, rfl⟩

omit [Field K] [LinearOrder K] in
lemma forall_mem_logCalls (out : List (Output K)) :
    (∀ call ∈ logCalls out, Logger.Fits call) ↔ ∀ o ∈ out, FitsLog o := by
  constructor
  · intro h o ho
    cases o with
    | log call => exact h call (mem_logCalls.mpr ho)
    | rsReceiveAdj adj => trivial
    | respond message => trivial
  · intro h call hcall
    exact h _ (mem_logCalls.mp hcall)

/-- The log buffers are kept to over a run: after every call of the logger, all that has been
copied lies within them. -/
def LogInBounds (es : List (Event K)) : Prop :=
  Logger.machine.Along (fun s call => Logger.InBounds (Logger.machine.step s call).1)
    Logger.machine.init (logCalls ((machine env).outputs es))

/-- **The log buffers are kept to exactly when no GPS frame without a packet is found.**
Whatever the datagrams, replies, signals and messages, no other record is too large. -/
theorem log_buffers_hold_iff (es : List (Event K)) :
    LogInBounds env es ↔ (machine env).Along (NoEmptyPacket env) (machine env).init es := by
  unfold LogInBounds
  rw [Logger.along_inBounds_iff, forall_mem_logCalls, Machine.outputs, Machine.forall_mem_emits_iff]
  apply Machine.along_congr
  intro s e _
  exact fits_step_iff env s e

/-- A frame with an empty packet, right at the start of the stream. -/
theorem log_buffer_overrun :
    ¬LogInBounds (⟨⟨0, 0⟩, fun _ => Vector.replicate 6 0, ⟨id, id, 3⟩, fun _ => 0⟩ : Env ℚ)
      [.datagram (Ethmux.datagram Ethmux.GPS_COTS
        [0, 0, 0, 0, 0xA0, 0xA1, 0, 0, 0, 0x0D, 0x0A])] := by
  unfold LogInBounds
  rw [Logger.along_inBounds_iff]
  decide +kernel

end Main
end FlightComputer
