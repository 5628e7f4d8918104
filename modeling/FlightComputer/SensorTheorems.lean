import FlightComputer.GpsFrames
import FlightComputer.MainTheorems

/-!
# What the arming check learns from the sensors

`arm.c` is one of several receivers of a message, and the others leave it alone: each
receiver of the system calls `arm.c` with certain events and does nothing else to it
(`Feeds`). So in every run `arm.c` has seen some events of its own, and what
`arm_invariant` says of its flags holds of these.

Both sensors are read too freely. A navigation report is read without a look at its length,
so `gpsLocked` may come from a byte that is none of a report (`gps_lock_iff`), and the
accelerations are taken in the byte order of the host (`upright_iff`).
-/

namespace FlightComputer
namespace Main

open Receiver
open Ethmux (Packet Source deliveries)

variable {K : Type}

/-! ## Calls into `arm.c` -/

/-- The state of the modules between the network and `arm.c`. -/
structure Sensors where
  ethmux : Ethmux.State
  gps : Gps.State
  arm : Arm.State

def State.sensors (s : State K) : Sensors := ⟨s.ethmux, s.gps, s.arm⟩

/-- `arm.c`, next to modules that do nothing. -/
def armSide : Machine Sensors Arm.Event Arm.Output where
  init := ⟨Ethmux.ethmuxInit, [], Arm.armInit⟩
  step := fun t e => ({ t with arm := (Arm.step t.arm e).1 }, (Arm.step t.arm e).2)

theorem armSide_after (t : Sensors) (es : List Arm.Event) :
    armSide.after t es = { t with arm := Arm.machine.after t.arm es } := by
  induction es generalizing t with
  | nil => rfl
  | cons e es ih => exact ih _

/-- A receiver calls `arm.c` with these events, and touches no other module before it. -/
def Feeds (es : List Arm.Event) (a : Action K) : Prop := a.Drives armSide State.sensors es

theorem Feeds.effect {es : List Arm.Event} {a : Action K} (h : Feeds es a) (s : State K) :
    (a s).1.arm = Arm.machine.after s.arm es ∧ (a s).1.ethmux = s.ethmux := by
  have hsensors := h s
  rw [armSide_after] at hsensors
  exact ⟨congrArg Sensors.arm hsensors, congrArg Sensors.ethmux hsensors⟩

variable (env : Env K)

lemma feeds_getPsasTime {use : Timestamp → Action K} {es : List Arm.Event}
    (h : ∀ clock, Feeds es (use clock)) : Feeds es (getPsasTime env use) := fun _ => h _ _

lemma feeds_logWrite (m : Message) : Feeds [] (logWrite env m) :=
  feeds_getPsasTime env fun _ => drives_call _

lemma feeds_logWriteDiskOnly (m : Message) : Feeds [] (logWriteDiskOnly env m) :=
  feeds_getPsasTime env fun _ => drives_call _

lemma feeds_logReceiveArm (code : String) : Feeds [] (logReceiveArm env code) :=
  feeds_getPsasTime env fun _ => feeds_getPsasTime env fun _ => drives_call _

lemma feeds_logReceiveRnhVersion (message : Bytes) :
    Feeds [] (logReceiveRnhVersion env message) :=
  feeds_getPsasTime env fun _ => feeds_getPsasTime env fun _ => drives_call _

lemma feeds_rcOutput (o : RollControl.Output K) : Feeds [] (rcOutput env o) := by
  cases o with
  | rcSendServo out =>
    have hlog : Feeds [] (logReceiveRc env out) := feeds_getPsasTime env fun _ => drives_call _
    exact drives_cons (drives_call _) (drives_singleton hlog)
  | sendServoResponse message => exact drives_call _

lemma feeds_rcOutputs (out : List (RollControl.Output K)) :
    Feeds [] (inOrder (out.map (rcOutput env))) :=
  drives_inOrder_nil out (feeds_rcOutput env)

lemma feeds_filterReceive (m : Message) : Feeds [] (filterReceive env m) := by
  unfold filterReceive
  cases Filter.filterReceive m with
  | filterToGround => exact drives_singleton (feeds_logWrite env m)
  | filterToDisk => exact drives_singleton (feeds_logWriteDiskOnly env m)

variable [Field K] [LinearOrder K]

lemma feeds_rc (event : Timestamp → RollControl.Event K) : Feeds [] (rc env event) := by
  apply feeds_getPsasTime
  intro clock s
  exact feeds_rcOutputs env _ _

lemma feeds_armSendSignal (code : String) : Feeds [] (armSendSignal env code) :=
  drives_cons (feeds_rc env _) (drives_singleton (feeds_logReceiveArm env code))

/-- What is called for a signal or a reply comes back to no module before `rollcontrol.c`. -/
lemma feeds_arm (event : Arm.Event) : Feeds [event] (arm env event) := by
  intro s
  have hout : Feeds [] (inOrder ((Arm.step s.arm event).2.map (armOutput env))) := by
    apply drives_inOrder_nil
    intro o
    cases o with
    | armSendSignal code => exact feeds_armSendSignal env code
    | sendArmResponse message => exact drives_call _
  exact hout _

lemma feeds_stateReceiveImu (m : Message) : Feeds [] (stateReceiveImu env m) := by
  intro s
  have hout : Feeds [] (inOrder
      ((StateEstimation.stateReceiveImu m s.state).2.map (stateSendMessage env))) := by
    apply drives_inOrder_nil
    intro o
    exact drives_singleton (feeds_rc env _)
  exact hout _

lemma feeds_gpsDataOut (m : Message) : Feeds [.armReceiveGps m] (gpsDataOut env m) :=
  drives_cons (feeds_arm env _) (drives_singleton (feeds_filterReceive env m))

/-- **The GPS chunks.** The frames found are sent to `arm.c`, one after the other. -/
theorem sensors_cotsRawIn (m : Message) (s : State K) :
    (cotsRawIn env m s).1.sensors =
      { ethmux := s.ethmux
        gps := (Gps.cotsRawIn m s.gps).1
        arm := Arm.machine.after s.arm
          ((Gps.cotsRawIn m s.gps).2.map fun o => .armReceiveGps o.message) } := by
  have hout := drives_inOrder (Gps.cotsRawIn m s.gps).2
    fun o : Gps.Output => feeds_gpsDataOut env o.message
  rw [← List.map_eq_flatMap] at hout
  have hstep := hout { s with gps := (Gps.cotsRawIn m s.gps).1 }
  rw [armSide_after] at hstep
  exact hstep

/-! ## The GPS lock -/

/-- `cots_raw_in`, wired as in `main.miml`, and nothing else. -/
def gpsSide : Machine (State K) Message (Output K) where
  init := init
  step := fun s m => cotsRawIn env m s

/-- The packets with the ID of navigation reports. -/
def navPackets (packets : List Bytes) : List Bytes := packets.filter (·.head? = some 0xA8)

/-- The navigation reports that are complete. -/
def completeReports (packets : List Bytes) : List Venus8NavigationData :=
  ((navPackets packets).filter (sizeofVenus8NavigationData < ·.length)).map
    fun packet => .ofMem packet.tail

/-- The newest complete report has at least a 3D fix. -/
def HasFix (packets : List Bytes) : Prop :=
  ∃ report ∈ (completeReports packets).getLast?, Arm.VENUS_A8_FIX_MODE_3D ≤ report.fixMode

/-- The byte behind the ID, which is the checksum if there is no other. -/
def byteBehindID (packet : Bytes) : UInt8 := (packet.tail ++ [Gps.chexxor packet]).headD 0

theorem sensors_gpsSide (ms : List Message) :
    ((gpsSide env).run ms).sensors =
      { ethmux := Ethmux.ethmuxInit
        gps := Gps.machine.run ms
        arm := Arm.machine.run
          ((Gps.machine.outputs ms).map fun o => .armReceiveGps o.message) } := by
  induction ms using List.reverseRecOn with
  | nil => rfl
  | append_singleton ms m ih =>
    have hstep := sensors_cotsRawIn env m ((gpsSide env).run ms)
    rw [State.sensors, Sensors.mk.injEq] at ih
    rw [Machine.run_snoc, Gps.machine.run_snoc, Gps.machine.outputs_snoc, List.map_append,
      Arm.machine.run_append, ← ih.2.2, ← ih.2.1, ← ih.1]
    exact hstep

/-- Only one ID is printed as A8. -/
theorem venusID_eq_iff (b : UInt8) : Gps.venusID b = messageID 'V' '8' 'A' '8' ↔ b = 0xA8 := by
  constructor
  · intro h
    have hb := b.toNat_lt
    have hhigh : ∀ n < 16, Gps.hexDigit n = 'A'.toUInt8 → n = 10 := by decide
    have hlow : ∀ n < 16, Gps.hexDigit n = '8'.toUInt8 → n = 8 := by decide
    have hdiv := hhigh (b.toNat / 16) (by omega) (congrArg (fun v => v.get 2) h)
    have hmod := hlow (b.toNat % 16) (by omega) (congrArg (fun v => v.get 3) h)
    apply UInt8.toNat_inj.mp
    show b.toNat = 168
    omega
  · rintro rfl
    decide

/-- What `arm.c` makes of a frame: the ID is the first byte of the packet, and the fix mode is
what comes next. -/
theorem navReport_of_mem (timestamp : Timestamp) {b : Bytes} {f : Gps.Frame}
    (h : f ∈ (Gps.venusLoop b).1) :
    ((Gps.gpsDataOut timestamp f).ID = messageID 'V' '8' 'A' '8' ↔ f.packet.head? = some 0xA8) ∧
      (f.packet.head? = some 0xA8 →
        (Venus8NavigationData.ofMem (Gps.gpsDataOut timestamp f).data).fixMode =
          byteBehindID f.packet) := by
  obtain ⟨hlen, -, after, hafter⟩ := Gps.mem_eq_venusFrame h
  have hdrop := Gps.drop_four_venusFrame f.packet after
  rw [← hafter] at hdrop
  have hID : (Gps.gpsDataOut timestamp f).ID =
      Gps.venusID ((f.packet ++ (Gps.chexxor f.packet :: 0x0D :: 0x0A :: after)).headD 0) := by
    rw [← hdrop]
    rfl
  have hdata : (Gps.gpsDataOut timestamp f).data =
      (f.packet ++ (Gps.chexxor f.packet :: 0x0D :: 0x0A :: after)).tail := by
    rw [← hdrop, List.tail_drop]
    rfl
  rw [hID, venusID_eq_iff, hdata]
  cases hpacket : f.packet with
  | nil =>
    -- the checksum of no bytes is 0
    exact ⟨by simp [Gps.chexxor], by simp⟩
  | cons id body =>
    refine ⟨by simp, fun _ => ?_⟩
    cases body with
    | nil => rfl
    | cons fixMode body => rfl

/-- The frames of a run come from the loop. -/
theorem exists_frame_of_mem {ms : List Message} {o : Gps.Output}
    (h : o ∈ Gps.machine.outputs ms) : ∃ b, o.frame ∈ (Gps.venusLoop b).1 := by
  have hall : ∀ o ∈ Gps.machine.outputs ms, ∃ b, o.frame ∈ (Gps.venusLoop b).1 := by
    rw [Gps.machine.forall_mem_outputs_iff]
    intro pre m post _ o ho
    obtain ⟨f, hf, rfl⟩ := List.mem_map.mp ho
    exact ⟨_, hf⟩
  exact hall o h

/-- The navigation reports `arm.c` sees, for some frames. -/
theorem navReports_map {outs : List Gps.Output}
    (h : ∀ o ∈ outs, ∃ b, o.frame ∈ (Gps.venusLoop b).1) :
    Arm.navReports (outs.map fun o => .armReceiveGps o.message) =
      (navPackets (outs.map fun o => o.frame.packet)).map fun packet => ⟨byteBehindID packet⟩ := by
  induction outs with
  | nil => rfl
  | cons o outs ih =>
    obtain ⟨b, hb⟩ := h o List.mem_cons_self
    obtain ⟨hID, hfix⟩ := navReport_of_mem o.timestamp hb
    change o.message.ID = _ ↔ _ at hID
    have hrest := ih fun o' ho' => h o' (List.mem_cons_of_mem o ho')
    unfold Arm.navReports navPackets at hrest ⊢
    rw [List.map_cons, List.map_cons]
    by_cases hhead : o.frame.packet.head? = some 0xA8
    · have hreport : Venus8NavigationData.ofMem o.message.data = ⟨byteBehindID o.frame.packet⟩ :=
        congrArg Venus8NavigationData.mk (hfix hhead)
      rw [List.filterMap_cons, List.filter_cons_of_pos (by simpa using hhead), List.map_cons,
        ← hrest]
      simp [hID.mpr hhead, hreport]
    · have hother : o.message.ID ≠ messageID 'V' '8' 'A' '8' := fun hc => hhead (hID.mp hc)
      rw [List.filterMap_cons, List.filter_cons_of_neg (by simpa using hhead), ← hrest]
      simp [hother]

/-- **The GPS lock.** It is set exactly if the byte behind the ID of the newest A8 frame says so. -/
theorem gpsLocked_gpsSide (ms : List Message) :
    ((gpsSide env).run ms).arm.gpsLocked = true ↔
      ∃ packet ∈ (navPackets ((Gps.machine.outputs ms).map fun o => o.frame.packet)).getLast?,
        Arm.VENUS_A8_FIX_MODE_3D ≤ byteBehindID packet := by
  have harm := congrArg Sensors.arm (sensors_gpsSide env ms)
  change ((gpsSide env).run ms).arm = _ at harm
  have hinv := Arm.arm_invariant ((Gps.machine.outputs ms).map fun o => .armReceiveGps o.message)
  rw [harm, hinv.gpsLocked, navReports_map fun o => exists_frame_of_mem, List.getLast?_map]
  simp

/-- The packets found in chunks are those found in the stream. -/
theorem packets_eq_of_leftmost {ms : List Message} (hms : ∀ m ∈ ms, m.dataLength.toNat ≤ 249)
    {frames : List (ℕ × Gps.Find)} {left : Bytes}
    (hframes : Gps.venusPattern.Leftmost 0 (Gps.stream ms) frames left) :
    (Gps.machine.outputs ms).map (fun o => o.frame.packet) = frames.map fun f => f.2.2 := by
  have hfound := (Gps.leftmost_iff_venusLoop.mp hframes).1
  rw [← Gps.positioned_outputs, (Gps.run_eq_venusLoop hms).1, hfound]

/-- A navigation report that is the newest A8 packet, and complete, is the newest complete one. -/
theorem getLast?_completeReports {packets : List Bytes} {packet : Bytes}
    (h : (navPackets packets).getLast? = some packet)
    (hlen : sizeofVenus8NavigationData < packet.length) :
    (completeReports packets).getLast? = some (.ofMem packet.tail) := by
  obtain ⟨before, hbefore⟩ := List.getLast?_eq_some_iff.mp h
  have hfilter : [packet].filter (sizeofVenus8NavigationData < ·.length) = [packet] := by
    simpa using hlen
  rw [completeReports, hbefore, List.filter_append, hfilter, List.map_append, List.map_singleton,
    List.getLast?_concat]

/-- **A GPS lock from a real navigation report.** However the network cuts the stream, the lock
comes from a complete report with a 3D fix exactly if this holds where the newest A8 frame in
the stream is too short for a report and has a byte of 2 or more behind its ID. -/
theorem gps_lock_iff (ms : List Message) (hms : ∀ m ∈ ms, m.dataLength.toNat ≤ 249)
    (frames : List (ℕ × Gps.Find)) (left : Bytes)
    (hframes : Gps.venusPattern.Leftmost 0 (Gps.stream ms) frames left) :
    (((gpsSide env).run ms).arm.gpsLocked = true → HasFix (frames.map fun f => f.2.2)) ↔
      ∀ packet ∈ (navPackets (frames.map fun f => f.2.2)).getLast?,
        packet.length ≤ sizeofVenus8NavigationData → 2 ≤ byteBehindID packet →
          HasFix (frames.map fun f => f.2.2) := by
  have hpackets := packets_eq_of_leftmost hms hframes
  rw [gpsLocked_gpsSide, hpackets]
  constructor
  · intro h packet hlast _ hfix
    exact h ⟨packet, hlast, hfix⟩
  · rintro h ⟨packet, hlast, hfix⟩
    by_cases hlen : packet.length ≤ sizeofVenus8NavigationData
    · exact h packet hlast hlen hfix
    · -- the byte behind the ID is that of the report
      refine ⟨_, getLast?_completeReports hlast (not_le.mp hlen), ?_⟩
      obtain ⟨fixMode, body, htail⟩ : ∃ fixMode body, packet.tail = fixMode :: body := by
        apply List.exists_cons_of_ne_nil
        intro hnil
        have htail := congrArg List.length hnil
        rw [List.length_tail, List.length_nil] at htail
        unfold sizeofVenus8NavigationData at hlen
        omega
      unfold byteBehindID at hfix
      rw [htail] at hfix ⊢
      exact hfix

/-- A surrounding in which every clock reading is 0. -/
def stillEnv : Env ℚ := ⟨⟨0, 0⟩, fun _ => Vector.replicate 6 0, ⟨id, id, 3⟩, fun _ => 0⟩

/-- The packet of a complete report with a 3D fix. -/
def fixPacket : Bytes := 0xA8 :: 2 :: List.replicate 57 0

/-- A lock from that report. -/
theorem gps_lock_complete :
    ((gpsSide stillEnv).run [Gps.chunk (Gps.venusFrame fixPacket)]).arm.gpsLocked = true ∧
      HasFix [fixPacket] := by
  have hframes := Gps.leftmost_venusFrame fixPacket (by decide)
  rw [← Gps.stream_chunk (Gps.venusFrame fixPacket) (by decide)] at hframes
  have hlocked : ((gpsSide stillEnv).run
      [Gps.chunk (Gps.venusFrame fixPacket)]).arm.gpsLocked = true := by
    decide +kernel
  refine ⟨hlocked, (gps_lock_iff stillEnv _ (by decide) _ _ hframes).mpr ?_ hlocked⟩
  intro packet hlast hlen
  have hpacket : some fixPacket = some packet := hlast
  rw [← Option.some.inj hpacket] at hlen
  exact absurd hlen (by decide)

/-- One byte is taken for a report: behind it comes its checksum. -/
theorem gps_lock_without_report :
    ¬∀ ms : List Message, (∀ m ∈ ms, m.dataLength.toNat ≤ 249) →
      ∀ frames left, Gps.venusPattern.Leftmost 0 (Gps.stream ms) frames left →
        ((gpsSide stillEnv).run ms).arm.gpsLocked = true → HasFix (frames.map fun f => f.2.2) := by
  intro h
  have hframes := Gps.leftmost_venusFrame [0xA8] (by decide)
  rw [← Gps.stream_chunk (Gps.venusFrame [0xA8]) (by decide)] at hframes
  have hlocked : ((gpsSide stillEnv).run
      [Gps.chunk (Gps.venusFrame [0xA8])]).arm.gpsLocked = true := by
    decide +kernel
  obtain ⟨report, hreport, -⟩ := h _ (by decide) _ _ hframes hlocked
  cases hreport

/-! ## The accelerations -/

/-- The acceleration in g that `state.c` reads in the same field. -/
def networkAccel (raw : BitVec 16) : ℚ := StateEstimation.networkInt16 raw * 0.00333

/-- The three tests on what `state.c` reads. -/
def networkStanding (data : ADIS16405Data) : Bool :=
  Arm.about (networkAccel data.accX) (-1) ∧ Arm.about (networkAccel data.accY) 0 ∧
    Arm.about (networkAccel data.accZ) 0

/-- The counts near -1 g. -/
theorem count_of_about {n : ℤ} (h : Arm.about ((n : ℚ) * 0.00333) (-1)) :
    -331 < n ∧ n < -270 := by
  unfold Arm.about Arm.ACCEL_NOISE_BOUND at h
  obtain ⟨hlow, hhigh⟩ := abs_lt.mp h
  constructor
  · by_contra hn
    have hle : (n : ℚ) ≤ -331 := by exact_mod_cast not_lt.mp hn
    linarith
  · by_contra hn
    have hle : (-270 : ℚ) ≤ n := by exact_mod_cast not_lt.mp hn
    linarith

/-- No vertical acceleration is near -1 g in both byte orders. -/
theorem not_about_both {raw : BitVec 16} (h : Arm.about (Arm.accel raw) (-1)) :
    ¬Arm.about (networkAccel raw) (-1) := by
  intro hnetwork
  have hhost := count_of_about h
  have hswap := count_of_about hnetwork
  have hlt := raw.isLt
  have hbytes : ntohs raw.toNat = raw.toNat / 256 % 256 + 256 * (raw.toNat % 256) := by
    simp [ntohs, swapBytes, beBytes, leBytes]
  unfold StateEstimation.networkInt16 at hswap
  rw [BitVec.toInt_eq_toNat_cond] at hhost hswap
  rw [BitVec.toNat_ofNat, hbytes] at hswap
  -- the high byte is FE, and the low byte, the high one of the other order, is not
  have hhigh : raw.toNat / 256 = 254 := by
    split_ifs at hhost <;> omega
  have hlow : raw.toNat % 256 < 254 := by
    split_ifs at hhost <;> omega
  rw [hhigh] at hswap
  split_ifs at hswap <;> omega

theorem not_standing_both (data : ADIS16405Data) :
    ¬(Arm.standing data = true ∧ networkStanding data = true) := by
  rintro ⟨hhost, hnetwork⟩
  unfold Arm.standing at hhost
  unfold networkStanding at hnetwork
  rw [decide_eq_true_eq] at hhost hnetwork
  exact not_about_both hhost.1 hnetwork.1

/-! ## The samples of a run -/

/-- The datagrams among some events. -/
def datagrams (es : List (Event K)) : List Packet :=
  es.filterMap fun
    | .datagram p => some p
    | _ => none

/-- The IMU messages of a run, which `arm.c` and `state.c` both receive. -/
def imuMessages (es : List (Event K)) : List Message :=
  deliveries .ADIS ((Ethmux.machine env.starttime).outputs (datagrams es))

/-- The samples in some messages. -/
def samples (ms : List Message) : List ADIS16405Data := ms.map fun m => .ofMem m.data

omit [Field K] [LinearOrder K] in
lemma datagrams_snoc (es : List (Event K)) (e : Event K) :
    datagrams (es ++ [e]) = datagrams es ++ datagrams [e] := List.filterMap_append

lemma imuSamples_append (es fs : List Arm.Event) :
    Arm.imuSamples (es ++ fs) = Arm.imuSamples es ++ Arm.imuSamples fs := List.filterMap_append

/-- A message of any source but the GPS stream. -/
lemma feeds_demuxed (m : Message) {handler : Ethmux.Handler} (hne : handler ≠ .demuxedCOTS) :
    Feeds (if handler = .demuxedADIS then [.armReceiveImu m] else []) (demuxed env m handler) := by
  have hlog := feeds_logWrite env m
  cases handler with
  | demuxedADIS =>
    exact drives_cons hlog (drives_cons (feeds_arm env (.armReceiveImu m))
      (drives_singleton (feeds_stateReceiveImu env m)))
  | demuxedRNHUMB => exact drives_cons (feeds_rc env _) (drives_singleton hlog)
  | demuxedJGPS => exact drives_singleton (feeds_filterReceive env m)
  | demuxedCOTS => exact absurd rfl hne
  | demuxedMPU | demuxedMPL | demuxedBMP | demuxedRNH | demuxedFCFH => exact drives_singleton hlog

/-- What a message from the network makes `arm.c` see of the IMU. -/
lemma arm_ethOutput {s : State K} {p : Packet} {o : Ethmux.Output} {t : Ethmux.State}
    (ho : o ∈ (Ethmux.demux env.starttime p t).2) :
    ∃ events, (ethOutput env o s).1.arm = Arm.machine.after s.arm events ∧
      Arm.imuSamples events = samples (deliveries .ADIS [o]) ∧
      (ethOutput env o s).1.ethmux = s.ethmux := by
  rcases Ethmux.mem_step env.starttime ho with
    ⟨expected, received, rfl⟩ | ⟨type, -, -, rfl⟩ | ⟨buffer, timestamp, rfl⟩ |
      ⟨buffer, timestamp, rfl⟩
  · have hfeeds : Feeds [] (ethOutput env (Ethmux.formatSequencedError p.port
        (toPsasTime env.starttime p.ts) expected received)) :=
      drives_singleton (feeds_logWrite env _)
    exact ⟨[], (hfeeds.effect s).1, rfl, (hfeeds.effect s).2⟩
  · rw [Ethmux.deliveries_callHandler]
    by_cases hcots : type = .GPSCOTS
    · subst hcots
      have hsensors := sensors_cotsRawIn env
        (Ethmux.delivery env.starttime .GPSCOTS p) s
      refine ⟨_, congrArg Sensors.arm hsensors, ?_, congrArg Sensors.ethmux hsensors⟩
      rw [if_neg (by decide)]
      simp [Arm.imuSamples, samples]
    · have hne := Ethmux.handler_ne_demuxedCOTS hcots
      have h := (feeds_demuxed env (Ethmux.delivery env.starttime type p) hne).effect s
      refine ⟨_, h.1, ?_, h.2⟩
      cases type <;> rfl
  · have hfeeds : Feeds [.armRawIn buffer] (ethOutput env (.demuxedARM buffer timestamp)) :=
      drives_singleton (feeds_arm env _)
    exact ⟨_, (hfeeds.effect s).1, rfl, (hfeeds.effect s).2⟩
  · have hfeeds : Feeds [] (ethOutput env (.demuxedRC buffer timestamp)) :=
      drives_singleton (feeds_rc env _)
    exact ⟨[], (hfeeds.effect s).1, rfl, (hfeeds.effect s).2⟩

/-- The same for the messages of one datagram. -/
lemma arm_ethOutputs {p : Packet} {t : Ethmux.State} {outs : List Ethmux.Output}
    (houts : outs ⊆ (Ethmux.demux env.starttime p t).2) (s : State K) :
    ∃ events, (inOrder (outs.map (ethOutput env)) s).1.arm = Arm.machine.after s.arm events ∧
      Arm.imuSamples events = samples (deliveries .ADIS outs) ∧
      (inOrder (outs.map (ethOutput env)) s).1.ethmux = s.ethmux := by
  induction outs generalizing s with
  | nil => exact ⟨[], rfl, rfl, rfl⟩
  | cons o outs ih =>
    obtain ⟨events, harm, himu, heth⟩ :=
      arm_ethOutput env (s := s) (houts List.mem_cons_self)
    obtain ⟨events', harm', himu', heth'⟩ :=
      ih (fun o' ho' => houts (List.mem_cons_of_mem o ho')) (ethOutput env o s).1
    refine ⟨events ++ events', ?_, ?_, heth'.trans heth⟩
    · rw [Arm.machine.after_append, ← harm]
      exact harm'
    · rw [imuSamples_append, himu, himu', samples, samples, samples, ← List.map_append,
        ← Ethmux.deliveries_append]
      rfl

/-- **One step.** What `arm.c` sees of the IMU is what `demux` passes on of it. -/
theorem arm_step (s : State K) (e : Event K) :
    ∃ events, (step env s e).1.arm = Arm.machine.after s.arm events ∧
      Arm.imuSamples events =
        samples (deliveries .ADIS
          ((Ethmux.machine env.starttime).emits s.ethmux (datagrams [e]))) ∧
      (step env s e).1.ethmux =
        (Ethmux.machine env.starttime).after s.ethmux (datagrams [e]) := by
  cases e with
  | datagram p =>
    have houts := arm_ethOutputs env (List.Subset.refl (Ethmux.demux env.starttime p s.ethmux).2)
      { s with ethmux := (Ethmux.demux env.starttime p s.ethmux).1 }
    obtain ⟨events, harm, himu, heth⟩ := houts
    refine ⟨events, harm, ?_, heth⟩
    rw [himu]
    show _ = samples (deliveries .ADIS ((Ethmux.demux env.starttime p s.ethmux).2 ++ []))
    rw [List.append_nil]
  | logTimeout =>
    have hfeeds : Feeds [] (logTimeout env) := feeds_getPsasTime env fun _ => drives_call _
    exact ⟨[], (hfeeds.effect s).1, rfl, (hfeeds.effect s).2⟩
  | versionCallback reply =>
    have hfeeds : Feeds [] (versionCallback env reply) :=
      drives_singleton (feeds_logReceiveRnhVersion env _)
    exact ⟨[], (hfeeds.effect s).1, rfl, (hfeeds.effect s).2⟩
  | armSignal armed =>
    have hfeeds := feeds_armSendSignal env (if armed = true then "ARM" else "SAFE")
    exact ⟨[], (hfeeds.effect s).1, rfl, (hfeeds.effect s).2⟩
  | setCanardAngle degrees =>
    have hfeeds := feeds_getPsasTime env fun clock s' =>
      feeds_rcOutputs env (RollControl.setCanardAngle clock degrees s'.rc) s'
    exact ⟨[], (hfeeds.effect s).1, rfl, (hfeeds.effect s).2⟩

/-- **The IMU samples of `arm.c`.** In every run it has seen those of the IMU messages. -/
theorem arm_run (es : List (Event K)) :
    ∃ events, ((machine env).run es).arm = Arm.machine.run events ∧
      Arm.imuSamples events = samples (imuMessages env es) ∧
      ((machine env).run es).ethmux = (Ethmux.machine env.starttime).run (datagrams es) := by
  induction es using List.reverseRecOn with
  | nil => exact ⟨[], rfl, rfl, rfl⟩
  | append_singleton es e ih =>
    obtain ⟨events, harm, himu, heth⟩ := ih
    obtain ⟨events', harm', himu', heth'⟩ := arm_step env ((machine env).run es) e
    refine ⟨events ++ events', ?_, ?_, ?_⟩
    · rw [Machine.run_snoc, Arm.machine.run_append, ← harm]
      exact harm'
    · rw [imuSamples_append, himu, himu', imuMessages, imuMessages, datagrams_snoc,
        Machine.outputs_append, Ethmux.deliveries_append, heth, samples, samples, samples,
        List.map_append]
    · rw [Machine.run_snoc, datagrams_snoc, Machine.run_append, ← heth]
      exact heth'

/-- **The same samples.** In every run the count of `arm.c` is the number of newest samples that
stand upright as `state.c` reads them, up to 100, exactly if the newest sample does not stand
upright in either byte order. -/
theorem upright_iff (es : List (Event K)) :
    ((machine env).run es).arm.upright =
        min 100 ((samples (imuMessages env es)).rtakeWhile networkStanding).length ↔
      ∀ data ∈ (samples (imuMessages env es)).getLast?,
        Arm.standing data = false ∧ networkStanding data = false := by
  obtain ⟨events, harm, himu, -⟩ := arm_run env es
  have hupright := (Arm.arm_invariant events).upright
  rw [← harm, himu] at hupright
  rw [hupright]
  rcases List.eq_nil_or_concat (samples (imuMessages env es)) with hnil | ⟨before, data, hlast⟩
  · rw [hnil]
    simp
  · have hboth := not_standing_both data
    have hlast' : ∀ data' ∈ some data, data' = data := fun data' h => (Option.some.inj h).symm
    rw [hlast, List.concat_eq_append, saturating_count, saturating_count, List.getLast?_concat]
    by_cases hhost : Arm.standing data = true
    · -- the count is at least 1 in the one order, and 0 in the other
      have hnetwork : ¬networkStanding data = true := fun h => hboth ⟨hhost, h⟩
      rw [if_pos hhost, if_neg hnetwork]
      constructor
      · intro h
        split_ifs at h
        omega
      · intro h
        rw [(h data rfl).1] at hhost
        cases hhost
    · rw [if_neg hhost]
      by_cases hnetwork : networkStanding data = true
      · rw [if_pos hnetwork]
        constructor
        · intro h
          split_ifs at h
          omega
        · intro h
          rw [(h data rfl).2] at hnetwork
          cases hnetwork
      · rw [if_neg hnetwork]
        refine iff_of_true rfl fun data' h => ?_
        rw [hlast' data' h]
        exact ⟨Bool.eq_false_iff.mpr hhost, Bool.eq_false_iff.mpr hnetwork⟩

/-- The rocket stands upright for `state.c`, and `arm.c` does not count it. -/
theorem upright_not_counted :
    ¬∀ es : List (Event ℚ), ((machine stillEnv).run es).arm.upright =
      min 100 ((samples (imuMessages stillEnv es)).rtakeWhile networkStanding).length := by
  intro h
  -- a datagram with the count -300, most significant byte first
  have hone := h [.datagram (Ethmux.datagram Ethmux.ADIS_PORT
    ([0, 0, 0, 0] ++ List.replicate 8 0 ++ [0xFE, 0xD4] ++ List.replicate 14 0))]
  revert hone
  decide +kernel

end Main
end FlightComputer
