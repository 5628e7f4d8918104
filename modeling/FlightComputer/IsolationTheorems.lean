import FlightComputer.GpsStreamTheorems
import FlightComputer.OperatorTheorems
import FlightComputer.SteeringTheorems

/-!
# What makes no difference to the fins

Most of what the flight computer hears is only logged. This module says that the logging stays out
of the way: the datagrams to the servo and the replies to commands are those of a process that
hears the commands and the IMU, umbilical and GPS datagrams alone, and whose clock reads
differently (`control_isolated`).

Two processes are compared whose states agree on everything but the counters of the other sources
and of the clock (`State.control`). Each receiver of the one looks like that of the other
(`Receiver.Alike`), and those that only log are not seen at all (`Receiver.Hidden`).
-/

namespace FlightComputer

open Receiver
open Ethmux (Packet Source WellFormed)
open Operator (IsCommand)
open Steering (Effect Timeless)

variable {K : Type} [Field K] [LinearOrder K]

namespace Main

/-! ## What is compared -/

/-- The sources that are not only logged. -/
def steeringSources : List Source := [.ADIS, .RNHUMBDET, .GPSCOTS]

/-- The state without what only concerns the log. -/
def State.control (s : State K) : State K :=
  { s with
    ethmux := { nextSequence := fun src =>
      if src ∈ steeringSources then s.ethmux.nextSequence src else 0 }
    reads := 0 }

/-- What a call tells others than the log. -/
def effect : Output K → Option (Effect K)
  | .log _ => none
  | .rsReceiveAdj adj => some (.servo adj.data)
  | .respond message => some (.reply message)

/-- The same program with another clock and another format of a `double`. -/
def Env.retimed (env : Env K) (clock : ℕ → Timestamp) (doubleBits : K → ℕ) : Env K :=
  { env with clock := clock, doubleBits := doubleBits }

/-- Two states that agree on the rest. -/
structure SameControl (s t : State K) : Prop where
  gps : s.gps = t.gps
  arm : s.arm = t.arm
  rc : s.rc = t.rc
  state : s.state = t.state
  next : ∀ src ∈ steeringSources, s.ethmux.nextSequence src = t.ethmux.nextSequence src

omit [Field K] [LinearOrder K] in
lemma control_eq_iff {s t : State K} : s.control = t.control ↔ SameControl s t := by
  constructor
  · intro h
    refine ⟨(congrArg State.gps h :), (congrArg State.arm h :), (congrArg State.rc h :),
      (congrArg State.state h :), fun src hsrc => ?_⟩
    have heq := congrFun (congrArg (fun s : State K => s.ethmux.nextSequence) h) src
    simpa only [State.control, if_pos hsrc] using heq
  · rintro ⟨hgps, harm, hrc, hstate, hnext⟩
    unfold State.control
    congr 2
    funext src
    split_ifs with hsrc
    · exact hnext src hsrc
    · rfl

/-- Two receivers no one can tell apart. -/
abbrev Same (a b : Action K) : Prop := Alike State.control effect a b

/-- A receiver that only logs. -/
abbrev OnlyLogs (a : Action K) : Prop := a.Hidden State.control effect

variable (env : Env K)

/-! ## Receivers that only log -/

omit [Field K] [LinearOrder K] in
lemma onlyLogs_log (call : Timestamp → Logger.Event) :
    OnlyLogs (getPsasTime env fun clock => Receiver.call [Output.log (call clock)]) := by
  refine fun s => ⟨rfl, fun o ho => ?_⟩
  rw [List.mem_singleton.mp ho]
  rfl

omit [Field K] [LinearOrder K] in
lemma onlyLogs_logReceiveArm (code : String) : OnlyLogs (logReceiveArm env code) := by
  refine fun s => ⟨rfl, fun o ho => ?_⟩
  rw [List.mem_singleton.mp ho]
  rfl

omit [Field K] [LinearOrder K] in
lemma onlyLogs_versionCallback (reply : Bytes) : OnlyLogs (versionCallback env reply) := by
  refine guarantees_singleton hidden_composable fun s => ⟨rfl, fun o ho => ?_⟩
  rw [List.mem_singleton.mp ho]
  rfl

omit [Field K] [LinearOrder K] in
lemma onlyLogs_filterReceive (m : Message) : OnlyLogs (filterReceive env m) := by
  unfold filterReceive
  cases Filter.filterReceive m with
  | filterToGround => exact guarantees_singleton hidden_composable (onlyLogs_log env _)
  | filterToDisk => exact guarantees_singleton hidden_composable (onlyLogs_log env _)

/-- The handlers of the other sources. -/
lemma onlyLogs_demuxed {type : Source} (htype : type ∉ steeringSources) (m : Message) :
    OnlyLogs (demuxed env m (Ethmux.demuxType type).handler) := by
  have hlog : OnlyLogs (inOrder [logWrite env m]) :=
    guarantees_singleton hidden_composable (onlyLogs_log env _)
  cases type with
  | ADIS | RNHUMBDET | GPSCOTS => exact absurd (by decide) htype
  | JGPS => exact guarantees_singleton hidden_composable (onlyLogs_filterReceive env m)
  | MPU | MPL | BMP | RNH | RNHPORT | RNHALARM | FCFH => exact hlog

/-! ## Receivers that steer -/

variable (clock : ℕ → Timestamp) (doubleBits : K → ℕ)

omit [Field K] [LinearOrder K] in
lemma same_rcOutput {o o' : RollControl.Output K} (ho : Steering.effect o = Steering.effect o') :
    Same (rcOutput env o) (rcOutput (env.retimed clock doubleBits) o') := by
  cases o with
  | rcSendServo out =>
    cases o' with
    | rcSendServo out' =>
      have hdata : out.data = out'.data := by simpa [Steering.effect] using ho
      have hservo : Same (rsReceiveAdj out) (rsReceiveAdj out') := by
        apply alike_call
        simp [effect, hdata]
      exact alike_cons hservo
        (alike_singleton (alike_of_hidden (onlyLogs_log env _) (onlyLogs_log _ _)))
    | sendServoResponse message => cases ho
  | sendServoResponse message =>
    cases o' with
    | rcSendServo out' => cases ho
    | sendServoResponse message' =>
      cases ho
      exact alike_call rfl

/-- A call into `rollcontrol.c` does not depend on the clock. -/
lemma same_rc {event : Timestamp → RollControl.Event K} (htime : Timeless event) :
    Same (rc env event) (rc (env.retimed clock doubleBits) event) := by
  intro s t hst
  have hsame := control_eq_iff.mp hst
  -- the two clocks have been read a different number of times, and read differently
  have hstep : (RollControl.step env.libm s.rc (event (env.clock s.reads))).1 =
      (RollControl.step env.libm t.rc (event (clock t.reads))).1 :=
    hsame.rc ▸ (htime env.libm s.rc (env.clock s.reads) (clock t.reads)).1
  have heffects : (RollControl.step env.libm s.rc (event (env.clock s.reads))).2.map
        Steering.effect =
      (RollControl.step env.libm t.rc (event (clock t.reads))).2.map Steering.effect :=
    hsame.rc ▸ (htime env.libm s.rc (env.clock s.reads) (clock t.reads)).2
  have hout : Same
      (inOrder ((RollControl.step env.libm s.rc (event (env.clock s.reads))).2.map (rcOutput env)))
      (inOrder ((RollControl.step env.libm t.rc (event (clock t.reads))).2.map
        (rcOutput (env.retimed clock doubleBits)))) := by
    apply alike_inOrder
    have heq : List.Forall₂ (fun o o' => Steering.effect o = Steering.effect o')
        (RollControl.step env.libm s.rc (event (env.clock s.reads))).2
        (RollControl.step env.libm t.rc (event (clock t.reads))).2 := by
      rw [← List.forall₂_map_right_iff, ← List.forall₂_map_left_iff, heffects]
      exact List.forall₂_refl _
    exact heq.imp fun _ _ => same_rcOutput env clock doubleBits
  exact hout
    { s with
      reads := s.reads + 1
      rc := (RollControl.step env.libm s.rc (event (env.clock s.reads))).1 }
    { t with
      reads := t.reads + 1
      rc := (RollControl.step env.libm t.rc (event (clock t.reads))).1 }
    (control_eq_iff.mpr { hsame with rc := hstep })

/-! ### The other modules -/

lemma same_armSendSignal (code : String) :
    Same (armSendSignal env code) (armSendSignal (env.retimed clock doubleBits) code) :=
  alike_cons (same_rc env clock doubleBits (Steering.timeless_rcReceiveArm code))
    (alike_singleton
      (alike_of_hidden (onlyLogs_logReceiveArm env code) (onlyLogs_logReceiveArm _ code)))

lemma same_arm (event : Arm.Event) :
    Same (arm env event) (arm (env.retimed clock doubleBits) event) := by
  refine alike_module (m := fun r => Arm.step r event) (g := State.arm)
    (u := fun r s => { s with arm := r }) ?_ ?_ ?_
  · exact fun hst => (control_eq_iff.mp hst).arm
  · exact fun r _ _ hst => control_eq_iff.mpr { control_eq_iff.mp hst with arm := rfl }
  · intro o
    cases o with
    | armSendSignal code => exact same_armSendSignal env clock doubleBits code
    | sendArmResponse message => exact alike_call rfl

lemma same_stateReceiveImu (m : Message) :
    Same (stateReceiveImu env m) (stateReceiveImu (env.retimed clock doubleBits) m) := by
  refine alike_module (m := StateEstimation.stateReceiveImu m) (g := State.state)
    (u := fun r s => { s with state := r }) ?_ ?_ ?_
  · exact fun hst => (control_eq_iff.mp hst).state
  · exact fun r _ _ hst => control_eq_iff.mpr { control_eq_iff.mp hst with state := rfl }
  · exact fun o => alike_singleton (same_rc env clock doubleBits
      (Steering.timeless_rcReceiveState o.ID o.timestamp o.data))

lemma same_cotsRawIn (m : Message) :
    Same (cotsRawIn env m) (cotsRawIn (env.retimed clock doubleBits) m) := by
  refine alike_module (m := Gps.cotsRawIn m) (g := State.gps)
    (u := fun r s => { s with gps := r }) ?_ ?_ ?_
  · exact fun hst => (control_eq_iff.mp hst).gps
  · exact fun r _ _ hst => control_eq_iff.mpr { control_eq_iff.mp hst with gps := rfl }
  · exact fun o => alike_cons (same_arm env clock doubleBits _)
      (alike_singleton (alike_of_hidden (onlyLogs_filterReceive env _)
        (onlyLogs_filterReceive _ _)))

/-! ### The network -/

lemma same_demuxed (m : Message) (handler : Ethmux.Handler) :
    Same (demuxed env m handler) (demuxed (env.retimed clock doubleBits) m handler) := by
  have hlog : Same (logWrite env m) (logWrite (env.retimed clock doubleBits) m) :=
    alike_of_hidden (onlyLogs_log env _) (onlyLogs_log _ _)
  cases handler with
  | demuxedADIS =>
    exact alike_cons hlog (alike_cons (same_arm env clock doubleBits _)
      (alike_singleton (same_stateReceiveImu env clock doubleBits m)))
  | demuxedRNHUMB =>
    exact alike_cons (same_rc env clock doubleBits
      (Steering.timeless_rcRawUmb m.ID m.timestamp m.data)) (alike_singleton hlog)
  | demuxedJGPS =>
    exact alike_singleton (alike_of_hidden (onlyLogs_filterReceive env m)
      (onlyLogs_filterReceive _ m))
  | demuxedCOTS => exact alike_singleton (same_cotsRawIn env clock doubleBits m)
  | demuxedMPU | demuxedMPL | demuxedBMP | demuxedRNH | demuxedFCFH => exact alike_singleton hlog

lemma same_ethOutput (o : Ethmux.Output) :
    Same (ethOutput env o) (ethOutput (env.retimed clock doubleBits) o) := by
  cases o with
  | demuxed handler m => exact same_demuxed env clock doubleBits m handler
  | demuxedARM buffer timestamp => exact alike_singleton (same_arm env clock doubleBits _)
  | demuxedRC buffer timestamp =>
    exact alike_singleton (same_rc env clock doubleBits (Steering.timeless_rcRawTestrc buffer))
  | sequencedError m =>
    exact alike_singleton (alike_of_hidden (onlyLogs_log env _) (onlyLogs_log _ _))

/-- A datagram that makes a difference: a command, or data of a source that is not only logged. -/
def Matters (p : Packet) : Prop := IsCommand p ∨ ∃ src ∈ steeringSources, WellFormed src p

instance (p : Packet) : Decidable (Matters p) := inferInstanceAs (Decidable (_ ∨ _))

/-- It is handled alike where the counters of these sources agree. -/
lemma demux_of_matters (starttime : Timespec) {p : Packet} (h : Matters p) {s t : Ethmux.State}
    (hst : ∀ src ∈ steeringSources, s.nextSequence src = t.nextSequence src) :
    (Ethmux.demux starttime p s).2 = (Ethmux.demux starttime p t).2 ∧
      ∀ src ∈ steeringSources, (Ethmux.demux starttime p s).1.nextSequence src =
        (Ethmux.demux starttime p t).1.nextSequence src := by
  rcases h with ⟨hroute, hne⟩ | ⟨src, hsrc, hwell⟩
  · -- a command has no number
    rw [Ethmux.demux_of_ne_nil _ _ hne, Ethmux.demux_of_ne_nil _ _ hne]
    rcases hroute with hroute | hroute
    · rw [hroute]
      exact ⟨rfl, hst⟩
    · rw [hroute]
      exact ⟨rfl, hst⟩
  · -- what is called depends on the counter of the source only, and no other one changes
    have hs := Ethmux.step_wellFormed starttime s hwell
    have ht := Ethmux.step_wellFormed starttime t hwell
    change Ethmux.demux starttime p s = _ at hs
    change Ethmux.demux starttime p t = _ at ht
    rw [hs, ht, hst src hsrc]
    refine ⟨rfl, fun src' hsrc' => ?_⟩
    show Function.update s.nextSequence src _ src' = Function.update t.nextSequence src _ src'
    by_cases heq : src' = src
    · rw [heq, Function.update_self, Function.update_self]
    · rw [Function.update_of_ne heq, Function.update_of_ne heq]
      exact hst src' hsrc'

/-- Any other datagram leaves these counters alone. -/
lemma demux_of_not_matters {starttime : Timespec} {p : Packet} (h : ¬Matters p) (s : Ethmux.State) :
    ∀ src ∈ steeringSources,
      (Ethmux.demux starttime p s).1.nextSequence src = s.nextSequence src := by
  intro src hsrc
  rcases Ethmux.datagram_cases src p with hwell | hwrong | hother
  · exact absurd (Or.inr ⟨src, hsrc, hwell⟩) h
  · have hstep := Ethmux.step_wrongLength starttime s hwrong
    change Ethmux.demux starttime p s = _ at hstep
    rw [hstep]
  · exact (Ethmux.step_other starttime s hother).1

lemma same_demux {p : Packet} (h : Matters p) {s t : State K} (hst : s.control = t.control) :
    (demux env p s).1.control = (demux (env.retimed clock doubleBits) p t).1.control ∧
      (demux env p s).2.filterMap effect =
        (demux (env.retimed clock doubleBits) p t).2.filterMap effect := by
  have hsame := control_eq_iff.mp hst
  obtain ⟨hcalls, hnext⟩ := demux_of_matters env.starttime h hsame.next
  have hout : Same (inOrder ((Ethmux.demux env.starttime p s.ethmux).2.map (ethOutput env)))
      (inOrder ((Ethmux.demux env.starttime p t.ethmux).2.map
        (ethOutput (env.retimed clock doubleBits)))) :=
    hcalls ▸ alike_inOrder (List.forall₂_same.mpr fun o _ => same_ethOutput env clock doubleBits o)
  exact hout { s with ethmux := (Ethmux.demux env.starttime p s.ethmux).1 }
    { t with ethmux := (Ethmux.demux env.starttime p t.ethmux).1 }
    (control_eq_iff.mpr { hsame with next := hnext })

omit [Field K] [LinearOrder K] in
/-- The chunk a step passes on is the same. -/
lemma onChunk_iff_of_same (P : Message → Prop) {s t : State K} (hst : s.control = t.control)
    (e : Event K) : OnChunk env P s e ↔ OnChunk (env.retimed clock doubleBits) P t e := by
  cases e with
  | datagram p =>
    have hnext := (control_eq_iff.mp hst).next .GPSCOTS (by decide)
    unfold OnChunk
    dsimp only
    rw [hnext]
    rfl
  | logTimeout | versionCallback | armSignal | setCanardAngle => exact Iff.rfl

lemma onlyLogs_demux {p : Packet} (h : ¬Matters p) : OnlyLogs (demux env p) := by
  intro s
  have hout : OnlyLogs
      (inOrder ((Ethmux.demux env.starttime p s.ethmux).2.map (ethOutput env))) := by
    apply guarantees_inOrder hidden_composable
    intro o ho
    rcases mem_demux_of_not_isCommand (fun hcommand => h (Or.inl hcommand)) ho with
      ⟨expected, received, rfl⟩ | ⟨type, hwell, rfl⟩
    · exact guarantees_singleton hidden_composable (onlyLogs_log env _)
    · exact onlyLogs_demuxed env (fun htype => h (Or.inr ⟨type, htype, hwell⟩)) _
  obtain ⟨hstate, hcalls⟩ := hout { s with ethmux := (Ethmux.demux env.starttime p s.ethmux).1 }
  -- its own counter may have changed, or there is none
  refine ⟨hstate.trans (control_eq_iff.mpr ⟨rfl, rfl, rfl, rfl, ?_⟩), hcalls⟩
  exact demux_of_not_matters h s.ethmux

end Main

/-! ## Runs -/

namespace Program

open Main (Matters effect)

variable (env : Main.Env K) (clock : ℕ → Timestamp) (doubleBits : K → ℕ)

/-- An event that makes a difference to more than the log. -/
def Steers : Event → Prop
  | .datagram p => Matters p
  | .logTimeout => False
  | .versionCallback _ => False

instance : DecidablePred Steers
  | .datagram p => inferInstanceAs (Decidable (Matters p))
  | .logTimeout => inferInstanceAs (Decidable False)
  | .versionCallback _ => inferInstanceAs (Decidable False)

/-- **The modules, with and without the rest.** -/
theorem front_unwinds : (front env).Unwinds (front (env.retimed clock doubleBits))
    (fun s t => s.control = t.control) (decide <| Steers ·) effect effect where
  init := rfl
  keeps := by
    intro s t e hst he
    cases e with
    | datagram p => exact Main.same_demux env clock doubleBits (of_decide_eq_true he) hst
    | logTimeout => exact absurd he (by decide)
    | versionCallback reply => exact absurd (of_decide_eq_true he) id
  skips := by
    intro s t e hst he
    have hlogs : Main.OnlyLogs fun s => ((front env).step s e) := by
      cases e with
      | datagram p => exact Main.onlyLogs_demux env (of_decide_eq_false he)
      | logTimeout => exact Main.onlyLogs_log env _
      | versionCallback reply => exact Main.onlyLogs_versionCallback env reply
    obtain ⟨hstate, hcalls⟩ := Hidden.reads hlogs s
    exact ⟨hstate.trans hst, hcalls⟩

/-- Without the rest, a regular run is one. -/
lemma Regular.filter {ok : ℕ → Bool} {es : List Event} (h : Regular env ok es) :
    Regular (env.retimed clock doubleBits) ok (es.filter (Steers ·)) where
  chunks := by
    refine (front_unwinds env clock doubleBits).along (fun {s t e} hst _ he => ?_) h.chunks
    exact (Main.onChunk_iff_of_same env clock doubleBits _ hst _).mp he
  packets := by
    refine (front_unwinds env clock doubleBits).along (fun {s t e} hst _ he => ?_) h.packets
    have hgps := (Main.control_eq_iff.mp hst).gps
    unfold Main.NoEmptyPacket at he ⊢
    rw [← hgps]
    exact (Main.onChunk_iff_of_same env clock doubleBits _ hst _).mp he
  writes := h.writes

variable [FloorSemiring K]

/-- A write that is not the logger's: to the servo, or to the sender of a command. -/
def actuation : Syscall → Option Syscall
  | .logger _ => none
  | .servo data => some (.servo data)
  | .reply message => some (.reply message)

/-- All of them, in their order. -/
def actuations (out : List Syscall) : List Syscall := out.filterMap actuation

/-- The devices without the logger. -/
def actuators : Machine UInt32 (Effect K) Syscall where
  init := 0
  step := fun seq effect =>
    match effect with
    | .servo c =>
      let adj : ROLLMessage K :=
        { ID := messageID 'R' 'O' 'L' 'L', timestamp := Steering.noClock, dataLength := 9, data := c }
      ((RollServo.step seq adj).1, (RollServo.step seq adj).2.map .servo)
    | .reply message => (seq, [.reply message])

lemma devices_actuators : (devices (K := K)).Projects actuators Devices.seq
    (fun _ o => (effect o).toList) actuation where
  init := rfl
  after := fun s o => by cases o <;> rfl
  emits := fun s o => by
    cases o with
    | log call => exact filterMap_map_of_none Syscall.logger actuation (fun _ => rfl) _
    | rsReceiveAdj adj =>
      show ((RollServo.step s.seq adj).2.map Syscall.servo).filterMap actuation =
        (RollServo.step s.seq adj).2.map Syscall.servo ++ []
      rw [List.filterMap_map, List.append_nil]
      exact congrFun List.filterMap_eq_map _
    | respond message => rfl

theorem actuations_session (es : List Event) :
    actuations (session env es) =
      actuators.outputs (((front env).outputs es).filterMap effect) := by
  have hfinal : (final env ((machine env).run es)).filterMap actuation = [] :=
    filterMap_map_of_none Syscall.logger actuation (fun _ => rfl) _
  have hruns := (devices_actuators.runs ((front env).outputs es)).2
  rw [Machine.observed_const] at hruns
  rw [actuations, session, List.filterMap_append, hfinal, List.append_nil, machine,
    Machine.outputs_cascade, hruns]

/-- **The log is out of the way.** In a regular run the datagrams to the servo and the replies, in
their order, are those of a process that hears nothing but commands and the well-formed datagrams of
the IMU, the umbilical and the COTS GPS, and whose run is regular as well. No other datagram, no
timer, no version reply, no reading of the clock and nothing that is logged makes a difference to
them. The arithmetic is exact on both sides. -/
theorem control_isolated {ok : ℕ → Bool} (es : List Event) (h : Regular env ok es) :
    Regular (env.retimed clock doubleBits) ok (es.filter (Steers ·)) ∧
      actuations (sent ok (session env es)) =
        actuations (sent ok (session (env.retimed clock doubleBits) (es.filter (Steers ·)))) := by
  have hruns := ((front_unwinds env clock doubleBits).runs es).2
  refine ⟨h.filter env clock doubleBits, ?_⟩
  rw [sent_of_ok h.writes, sent_of_ok h.writes, actuations_session, actuations_session, hruns]

/-- A fix from the GPS. -/
def fixDatagram : Event :=
  .datagram (Ethmux.datagram Ethmux.GPS_COTS ([0, 0, 0, 0] ++ Gps.venusFrame Main.fixPacket))

/-- The lock overridden, a fix, armed, one IMU sample, and safe again. -/
def steeringRun : List Event :=
  [.datagram (Ethmux.datagram Ethmux.ARM_PORT (ascii "DI_SLOCK")), fixDatagram,
    .datagram (Ethmux.datagram Ethmux.ARM_PORT (ascii "#YOLO")),
    .datagram (Ethmux.datagram Ethmux.ADIS_PORT (List.replicate 28 0)),
    .datagram (Ethmux.datagram Ethmux.ARM_PORT (ascii "#SAFE"))]

/-- The same with a datagram of another source, one of a wrong length, two timers and a version
reply in between. -/
def busyRun : List Event :=
  [.datagram (Ethmux.datagram Ethmux.JGPS_PORT [0, 0, 0, 2, 7]),
    .datagram (Ethmux.datagram Ethmux.ARM_PORT (ascii "DI_SLOCK")), fixDatagram, .logTimeout,
    .datagram (Ethmux.datagram Ethmux.ARM_PORT (ascii "#YOLO")), .versionCallback [1, 2, 3],
    .datagram (Ethmux.datagram Ethmux.ADIS_PORT [0, 0, 0, 5]),
    .datagram (Ethmux.datagram Ethmux.ADIS_PORT (List.replicate 28 0)), .logTimeout,
    .datagram (Ethmux.datagram Ethmux.ARM_PORT (ascii "#SAFE"))]

/-- The writes of the busy run, from the run without the rest. -/
theorem control_isolated_busy :
    busyRun.filter (Steers ·) = steeringRun ∧
      actuations (sent noFailures (session Main.stillEnv busyRun)) =
        [.reply "Sensor Lock Overridden", .reply "successful ARM",
          .servo (some [0, 0, 0, 0, 0x62, 0x72, 0]), .servo (some [0, 0, 0, 1, 0x62, 0x72, 1]),
          .reply "successful SAFE"] := by
  have hregular : Regular Main.stillEnv noFailures busyRun :=
    (regular_iff Main.stillEnv busyRun).mpr ⟨(Gps.along_inBuffer_iff _).mpr (by decide +kernel),
      (Logger.along_inBounds_iff _).mpr (by decide +kernel), fun _ => rfl⟩
  obtain ⟨-, hisolated⟩ := control_isolated Main.stillEnv
    (fun _ => Vector.replicate 6 1) (fun _ => 1) busyRun hregular
  have hfilter : busyRun.filter (Steers ·) = steeringRun := by decide +kernel
  refine ⟨hfilter, ?_⟩
  rw [hisolated, hfilter]
  decide +kernel

end Program
end FlightComputer
