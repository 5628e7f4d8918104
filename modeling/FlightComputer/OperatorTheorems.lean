import FlightComputer.CommandTheorems
import FlightComputer.Operator
import FlightComputer.RecorderTheorems

/-!
# What the operator knows

A step of the program handles no command, or it handles exactly one. Then it does what
`Console.handle` says, and answers with exactly one reply, the one that `Console.handle` gives
(`step_spec`). What the other steps do, the operator need not know of: they do not arm, do
not touch the sensor lock, and do not switch the servo on (`Steady`). So what the replies tell is
true, and no datagram enables the servo without a reply that says so.
-/

namespace FlightComputer

open Ethmux (Packet Source)
open Operator (Action Console Agrees)

/-! ## What commands do -/

namespace Operator

lemma perform_reply_mem (c : Console) (ready : Bool) (action : Action) :
    (c.perform ready action).2 ∈ answers action := by
  unfold Console.perform
  cases action with
  | arm | disableServo | enableServo =>
    dsimp only
    split_ifs <;> simp [answers]
  | safe | override | slock => exact List.mem_singleton_self _

/-- **The replies** are those expected. -/
theorem handle_reply_mem (c : Console) (ready : Bool) (p : Packet) :
    (c.handle ready p).2 ∈ answersTo p := by
  unfold Console.handle answersTo
  cases requested p with
  | some action => exact perform_reply_mem c ready action
  | none =>
    dsimp only
    split_ifs <;> simp

/-- Most replies have nothing to agree with. -/
lemma agrees_of_other {c : Console} {message : String} (h : message ∉
      ["ARM failed due to sensor lock", "Roll control servos state not changed due to being armed",
        "Roll control servos enabled", "Roll control servos disabled", "Unknown servo command"]) :
    Agrees c message where
  declined := fun hm => absurd (by simp [hm]) h
  armed := fun hm => absurd (by simp [hm]) h
  tested := fun hm => absurd (List.mem_cons_of_mem _ (List.mem_cons_of_mem _ hm)) h

/-- Test commands are obeyed while not armed. -/
lemma agrees_of_not_armed {c : Console} {message : String} (hc : c.armed = false)
    (h : message ∉ ["ARM failed due to sensor lock",
      "Roll control servos state not changed due to being armed"]) : Agrees c message where
  declined := fun hm => absurd (by simp [hm]) h
  armed := fun hm => absurd (by simp [hm]) h
  tested := fun _ => hc

/-- And refused while armed. -/
lemma agrees_refused {c : Console} (hc : c.armed = true) :
    Agrees c "Roll control servos state not changed due to being armed" where
  declined := fun hm => absurd hm (by decide)
  armed := fun _ => hc
  tested := fun hm => absurd hm (by decide)

lemma agrees_perform (c : Console) (ready : Bool) (action : Action) :
    Agrees c (c.perform ready action).2 := by
  unfold Console.perform
  cases action with
  | arm =>
    dsimp only
    split_ifs with hallowed
    · show Agrees c "successful ARM"
      exact agrees_of_other (by decide)
    · -- without the lock the arming would have been granted
      show Agrees c "ARM failed due to sensor lock"
      refine ⟨fun _ => ?_, fun hm => absurd hm (by decide), fun hm => absurd hm (by decide)⟩
      by_contra hunlocked
      exact hallowed (Or.inr (Bool.eq_false_of_not_eq_true hunlocked))
  | safe =>
    show Agrees c "successful SAFE"
    exact agrees_of_other (by decide)
  | override =>
    show Agrees c "Sensor Lock Overridden"
    exact agrees_of_other (by decide)
  | slock =>
    show Agrees c "successful EN_SLOCK"
    exact agrees_of_other (by decide)
  | disableServo =>
    dsimp only
    split_ifs with harmed
    · exact agrees_refused harmed
    · show Agrees c "Roll control servos disabled"
      exact agrees_of_not_armed (Bool.eq_false_of_not_eq_true harmed) (by decide)
  | enableServo =>
    dsimp only
    split_ifs with harmed
    · exact agrees_refused harmed
    · show Agrees c "Roll control servos enabled"
      exact agrees_of_not_armed (Bool.eq_false_of_not_eq_true harmed) (by decide)

/-- Each reply agrees with what it is given in. -/
theorem agrees_handle (c : Console) (ready : Bool) (p : Packet) :
    Agrees c (c.handle ready p).2 := by
  unfold Console.handle
  cases requested p with
  | some action => exact agrees_perform c ready action
  | none =>
    dsimp only
    split_ifs with hroute harmed
    · show Agrees c "UNKNOWN COMMAND"
      exact agrees_of_other (by decide)
    · exact agrees_refused harmed
    · show Agrees c "Unknown servo command"
      exact agrees_of_not_armed (Bool.eq_false_of_not_eq_true harmed) (by decide)

lemma read_perform (c : Console) (ready : Bool) (action : Action) :
    c.read (c.perform ready action).2 = (c.perform ready action).1 := by
  unfold Console.perform
  cases action with
  | arm | disableServo | enableServo =>
    dsimp only
    split_ifs <;> rfl
  | safe | override | slock => rfl

/-- **The replies tell what has been done.** -/
theorem read_handle (c : Console) (ready : Bool) (p : Packet) :
    c.read (c.handle ready p).2 = (c.handle ready p).1 := by
  unfold Console.handle
  cases requested p with
  | some action => exact read_perform c ready action
  | none =>
    dsimp only
    split_ifs <;> rfl

lemma handle_of_requested {p : Packet} {action : Action} (h : requested p = some action)
    (c : Console) (ready : Bool) : c.handle ready p = c.perform ready action := by
  unfold Console.handle
  rw [h]

/-- What `FC` sends is understood. -/
lemma requested_talk (action : Action) (ts : Timespec) :
    requested (talk action ts) = some action := by
  have hrequested : requested (talk action ⟨0, 0⟩) = some action := by
    cases action <;> decide
  -- the time stamp is not looked at
  exact hrequested

lemma isCommand_talk (action : Action) (ts : Timespec) : IsCommand (talk action ts) := by
  have hcommand : IsCommand (talk action ⟨0, 0⟩) := by
    cases action <;> decide
  exact hcommand

end Operator

variable {K : Type} [Field K] [LinearOrder K]

namespace Main

open Receiver

/-! ## What the operator need not know of -/

/-- What can be seen of a state. -/
def State.console (s : State K) : Console where
  slock := s.arm.slockEnable
  armed := s.rc.armed
  granted := s.rc.enableServo

/-- The check of the sensors in `arm_raw_in`. -/
def State.ready (s : State K) : Bool := s.arm.gpsLocked = true ∧ s.arm.upright = 100

/-- Calls that are no replies, and do not enable the servo unless `on`. -/
def Quiet (on : Prop) : Output K → Prop
  | .log _ => True
  | .rsReceiveAdj adj => adj.data.disable = 0 → on
  | .respond _ => False

/-- The servo may be switched off, and nothing else. -/
structure Unnoticed (c c' : Console) : Prop where
  slock : c'.slock = c.slock
  armed : c'.armed = c.armed
  granted : c'.granted = true → c.granted = true

/-- A receiver that is none of the operator's business. -/
abbrev Steady (a : Action K) : Prop :=
  a.Guarantees (fun s s' => Unnoticed s.console s'.console)
    fun s o => Quiet (s.rc.enableServo = true) o

omit [Field K] [LinearOrder K] in
lemma Quiet.imp {on on' : Prop} {o : Output K} (h : Quiet on o) (himp : on → on') :
    Quiet on' o := by
  cases o with
  | log call => trivial
  | rsReceiveAdj adj => exact fun hdisable => himp (h hdisable)
  | respond message => exact h

omit [Field K] [LinearOrder K] in
lemma steady_composable : Composable (fun s s' : State K => Unnoticed s.console s'.console)
    fun (s : State K) (o : Output K) => Quiet (s.rc.enableServo = true) o where
  refl := fun _ => ⟨rfl, rfl, id⟩
  trans := fun h h' => ⟨h'.slock.trans h.slock, h'.armed.trans h.armed,
    fun hon => h.granted (h'.granted hon)⟩
  back := fun h hquiet => hquiet.imp h.granted

variable (env : Env K)

omit [Field K] [LinearOrder K] in
lemma steady_log (call : Timestamp → Logger.Event) :
    Steady (getPsasTime env fun clock => Receiver.call [Output.log (call clock)]) := by
  refine fun s => ⟨⟨rfl, rfl, id⟩, fun o ho => ?_⟩
  rw [List.mem_singleton.mp ho]
  trivial

omit [Field K] [LinearOrder K] in
lemma steady_filterReceive (m : Message) : Steady (filterReceive env m) := by
  unfold filterReceive
  cases Filter.filterReceive m with
  | filterToGround => exact guarantees_singleton steady_composable (steady_log env _)
  | filterToDisk => exact guarantees_singleton steady_composable (steady_log env _)

omit [Field K] [LinearOrder K] in
lemma steady_versionCallback (reply : Bytes) : Steady (versionCallback env reply) := by
  refine guarantees_singleton steady_composable fun s => ⟨⟨rfl, rfl, id⟩, fun o ho => ?_⟩
  rw [List.mem_singleton.mp ho]
  trivial

/-! ### `rollcontrol.c` -/

/-- The same for the calls of `rollcontrol.c`. -/
def RcQuiet (on : Prop) : RollControl.Output K → Prop
  | .rcSendServo m => m.data.disable = 0 → on
  | .sendServoResponse _ => False

lemma rcQuiet_setCanardAngle (clock : Timestamp) (degrees : K) (s : RollControl.State K) :
    ∀ o ∈ RollControl.setCanardAngle clock degrees s, RcQuiet (s.enableServo = true) o := by
  intro o ho
  rw [List.mem_singleton.mp ho]
  intro hdisable
  cases hon : s.enableServo with
  | true => rfl
  | false =>
    change (!s.enableServo).toUInt8 = 0 at hdisable
    rw [hon] at hdisable
    exact absurd hdisable (by decide)

/-- With the servo off, no message enables it. -/
lemma rcQuiet_of_off (clock : Timestamp) (degrees : K) {s : RollControl.State K}
    (h : s.enableServo = false) :
    ∀ o ∈ RollControl.setCanardAngle clock degrees s, RcQuiet False o := by
  intro o ho
  have hquiet := rcQuiet_setCanardAngle clock degrees s o ho
  rw [h] at hquiet
  cases o with
  | rcSendServo m => exact fun hdisable => Bool.false_ne_true (hquiet hdisable)
  | sendServoResponse message => exact hquiet

omit [Field K] [LinearOrder K] in
/-- The calls are passed on, and seen by no other module. -/
lemma rcOutputs_quiet {on : Prop} {out : List (RollControl.Output K)}
    (hout : ∀ o ∈ out, RcQuiet on o) (s : State K) :
    (inOrder (out.map (rcOutput env)) s).1.console = s.console ∧
      ∀ o ∈ (inOrder (out.map (rcOutput env)) s).2, Quiet on o := by
  induction out generalizing s with
  | nil => exact ⟨rfl, fun _ ho => by cases ho⟩
  | cons o out ih =>
    have hone : (rcOutput env o s).1.console = s.console ∧
        ∀ o' ∈ (rcOutput env o s).2, Quiet on o' := by
      have ho := hout o List.mem_cons_self
      cases o with
      | rcSendServo m =>
        refine ⟨rfl, fun o' ho' => ?_⟩
        rcases List.mem_cons.mp ho' with rfl | ho'
        · exact ho
        · rw [List.mem_singleton.mp ho']
          trivial
      | sendServoResponse message => exact ho.elim
    obtain ⟨hstate, hquiet⟩ := ih (fun o' ho' => hout o' (List.mem_cons_of_mem o ho'))
      (rcOutput env o s).1
    rw [List.map_cons, inOrder_cons]
    refine ⟨hstate.trans hone.1, fun o' ho' => ?_⟩
    rcases List.mem_append.mp ho' with ho' | ho'
    · exact hone.2 o' ho'
    · exact hquiet o' ho'

/-- A call into `rollcontrol.c` that is no command. -/
lemma steady_rc {event : Timestamp → RollControl.Event K}
    (harmed : ∀ s clock, (RollControl.step env.libm s (event clock)).1.armed = s.armed)
    (henable : ∀ s clock, (RollControl.step env.libm s (event clock)).1.enableServo = true →
      s.enableServo = true)
    (hquiet : ∀ s clock, ∀ o ∈ (RollControl.step env.libm s (event clock)).2,
      RcQuiet (s.enableServo = true) o) : Steady (rc env event) := by
  intro s
  obtain ⟨hstate, hcalls⟩ := rcOutputs_quiet env (hquiet s.rc (env.clock s.reads))
    { s with
      reads := s.reads + 1
      rc := (RollControl.step env.libm s.rc (event (env.clock s.reads))).1 }
  have hconsole : (rc env event s).1.console = _ := hstate
  refine ⟨?_, hcalls⟩
  show Unnoticed s.console (rc env event s).1.console
  rw [hconsole]
  exact ⟨rfl, harmed s.rc _, henable s.rc _⟩

lemma steady_rcRawUmb (m : Message) : Steady (rcRawUmb env m) := by
  refine steady_rc env (fun s _ => ?_) (fun s _ => ?_) fun _ _ _ ho => by cases ho
  · show (RollControl.rcRawUmb m.ID m.timestamp m.data s).armed = s.armed
    by_cases hID : m.ID = messageID 'R' 'N' 'H' 'U'
    · rw [RollControl.rcRawUmb_report hID]
    · rw [RollControl.rcRawUmb_other hID]
  · show (RollControl.rcRawUmb m.ID m.timestamp m.data s).enableServo = true → _
    rw [RollControl.rcRawUmb_enableServo]
    exact id

lemma steady_rcReceiveState (m : StateEstimation.Output K) : Steady (rcReceiveState env m) := by
  have hspec : ∀ (s : RollControl.State K) clock,
      (RollControl.rcReceiveState env.libm clock m.ID m.timestamp m.data s).1.armed = s.armed ∧
        ((RollControl.rcReceiveState env.libm clock m.ID m.timestamp m.data s).1.enableServo = true →
          s.enableServo = true) ∧
        ∀ o ∈ (RollControl.rcReceiveState env.libm clock m.ID m.timestamp m.data s).2,
          RcQuiet (s.enableServo = true) o := by
    intro s clock
    by_cases hoff : s.launched = true ∧ s.enableServo = true ∧
        s.timeout < fromPsasTime m.timestamp
    · rw [RollControl.rcReceiveState_timeout env.libm clock m.ID m.timestamp m.data hoff.1 hoff.2.1
        hoff.2.2]
      -- the cut-off itself: the servo was on before it
      refine ⟨rfl, fun hon => (Bool.false_ne_true hon).elim, fun o ho => ?_⟩
      have hquiet := rcQuiet_setCanardAngle clock 0 (RollControl.setServoEnable false s) o ho
      cases o with
      | rcSendServo m => exact fun _ => hoff.2.1
      | sendServoResponse message => exact hquiet
    · rw [RollControl.rcReceiveState_no_timeout env.libm clock m.ID m.timestamp m.data hoff]
      split_ifs
      · exact ⟨rfl, id, rcQuiet_setCanardAngle clock _ (RollControl.pidController m.data s).2⟩
      · exact ⟨rfl, id, fun _ ho => by cases ho⟩
  exact steady_rc env (fun s clock => (hspec s clock).1) (fun s clock => (hspec s clock).2.1)
    fun s clock => (hspec s clock).2.2

/-! ### The network -/

/-- The sensors do not touch the sensor lock. -/
lemma steady_armReceiveImu (m : Message) : Steady (armReceiveImu env m) := by
  refine fun s => ⟨⟨?_, rfl, id⟩, fun _ ho => by cases ho⟩
  show (Arm.armReceiveImu m s.arm).slockEnable = s.arm.slockEnable
  unfold Arm.armReceiveImu
  dsimp only
  split_ifs
  · rfl
  · rfl
  · rfl

lemma steady_armReceiveGps (m : Message) : Steady (armReceiveGps env m) := by
  refine fun s => ⟨⟨?_, rfl, id⟩, fun _ ho => by cases ho⟩
  show (Arm.armReceiveGps m s.arm).slockEnable = s.arm.slockEnable
  unfold Arm.armReceiveGps
  dsimp only
  split_ifs
  · rfl
  · rfl
  · rfl

lemma steady_stateReceiveImu (m : Message) : Steady (stateReceiveImu env m) := by
  intro s
  have hout : Steady (inOrder ((StateEstimation.stateReceiveImu m s.state).2.map
      (stateSendMessage env))) :=
    guarantees_inOrder steady_composable fun o _ =>
      guarantees_singleton steady_composable (steady_rcReceiveState env o)
  exact hout { s with state := (StateEstimation.stateReceiveImu m s.state).1 }

lemma steady_cotsRawIn (m : Message) : Steady (cotsRawIn env m) := by
  intro s
  have hout : Steady (inOrder ((Gps.cotsRawIn m s.gps).2.map fun o => gpsDataOut env o.message)) :=
    guarantees_inOrder steady_composable fun o _ =>
      guarantees_cons steady_composable (steady_armReceiveGps env _)
        (guarantees_singleton steady_composable (steady_filterReceive env _))
  exact hout { s with gps := (Gps.cotsRawIn m s.gps).1 }

lemma steady_demuxed (m : Message) (handler : Ethmux.Handler) :
    Steady (demuxed env m handler) := by
  have hlog : Steady (inOrder [logWrite env m]) :=
    guarantees_singleton steady_composable (steady_log env _)
  cases handler with
  | demuxedADIS =>
    exact guarantees_cons steady_composable (steady_log env _)
      (guarantees_cons steady_composable (steady_armReceiveImu env m)
        (guarantees_singleton steady_composable (steady_stateReceiveImu env m)))
  | demuxedRNHUMB => exact guarantees_cons steady_composable (steady_rcRawUmb env m) hlog
  | demuxedJGPS => exact guarantees_singleton steady_composable (steady_filterReceive env m)
  | demuxedCOTS => exact guarantees_singleton steady_composable (steady_cotsRawIn env m)
  | demuxedMPU | demuxedMPL | demuxedBMP | demuxedRNH | demuxedFCFH => exact hlog

/-! ## Commands -/

/-- A command has its effect, and is answered with its reply behind all other calls. -/
structure Answered (p : Packet) (s s' : State K) (out : List (Output K)) (message : String) :
    Prop where
  calls : ∃ calls, out = calls ++ [.respond message] ∧ ∀ o ∈ calls, Quiet False o
  handled : (s'.console, message) = s.console.handle s.ready p

omit [Field K] [LinearOrder K] in
/-- A command that is only answered. -/
lemma answered_reply {p : Packet} {s s' : State K} {message : String}
    (h : (s'.console, message) = s.console.handle s.ready p) :
    Answered p s s' [.respond message] message :=
  ⟨⟨[], rfl, fun _ ho => by cases ho⟩, h⟩

section

variable {p : Packet} {s s' : State K} {out : List (Output K)} {reply : String}

omit [Field K] [LinearOrder K] in
lemma Answered.console (h : Answered p s s' out reply) :
    s'.console = (s.console.handle s.ready p).1 :=
  congrArg Prod.fst h.handled

omit [Field K] [LinearOrder K] in
lemma Answered.message (h : Answered p s s' out reply) :
    reply = (s.console.handle s.ready p).2 :=
  congrArg Prod.snd h.handled

omit [Field K] [LinearOrder K] in
lemma Answered.read (h : Answered p s s' out reply) : s'.console = s.console.read reply := by
  rw [h.message, Operator.read_handle, h.console]

end

/-- The signals. -/
lemma armSendSignal_spec {code : String} (hcode : code = "ARM" ∨ code = "SAFE") (s : State K) :
    (armSendSignal env code s).1.console =
        { s.console with armed := code = "ARM", granted := code = "ARM" } ∧
      ∀ o ∈ (armSendSignal env code s).2, Quiet False o := by
  have hstep : ∀ (s : RollControl.State K) clock,
      (RollControl.rcReceiveArm clock code s).1.armed = decide (code = "ARM") ∧
        (RollControl.rcReceiveArm clock code s).1.enableServo = decide (code = "ARM") ∧
        ∀ o ∈ (RollControl.rcReceiveArm clock code s).2, RcQuiet False o := by
    intro s clock
    rcases hcode with rfl | rfl
    · exact ⟨rfl, rfl, fun _ ho => by cases ho⟩
    · exact ⟨rfl, rfl, rcQuiet_of_off clock 0 rfl⟩
  obtain ⟨harmed, henable, hquiet⟩ := hstep s.rc (env.clock s.reads)
  obtain ⟨hstate, hcalls⟩ := rcOutputs_quiet env hquiet
    { s with
      reads := s.reads + 1
      rc := (RollControl.rcReceiveArm (env.clock s.reads) code s.rc).1 }
  have hconsole : (armSendSignal env code s).1.console = _ := hstate
  refine ⟨?_, fun o ho => ?_⟩
  · rw [hconsole]
    simp only [State.console, harmed, henable]
  · rcases List.mem_append.mp ho with ho | ho
    · exact hcalls o ho
    · rw [List.mem_singleton.mp ho]
      trivial

lemma answered_armRawIn {p : Packet} (hroute : Ethmux.route p.port = .arm) (s : State K) :
    ∃ message, Answered p s (armRawIn env p.received s).1 (armRawIn env p.received s).2
      message := by
  have harm : armRawIn env p.received s =
      inOrder ((Arm.armRawIn p.received s.arm).2.map (armOutput env))
        { s with arm := (Arm.armRawIn p.received s.arm).1 } := rfl
  have hreply : ∀ (message : String) (s : State K),
      inOrder ([Arm.Output.sendArmResponse message].map (armOutput env)) s =
        (s, [.respond message]) := fun _ _ => rfl
  have hsignal : ∀ (code message : String) (s : State K),
      inOrder ([Arm.Output.armSendSignal code, .sendArmResponse message].map (armOutput env)) s =
        ((armSendSignal env code s).1, (armSendSignal env code s).2 ++ [.respond message]) :=
    fun _ _ _ => rfl
  -- what is asked for is what `arm.c` recognises
  have hhandle : ∀ action, Operator.requested p = some action →
      s.console.handle s.ready p = s.console.perform s.ready action :=
    fun _ hrequested => Operator.handle_of_requested hrequested _ _
  have hrequested : Operator.requested p = Operator.armAction (Arm.recognise p.received) :=
    if_pos hroute
  rw [harm]
  unfold Arm.armRawIn
  generalize Arm.recognise p.received = command at hrequested ⊢
  cases command with
  | arm =>
    have hallowed : (s.arm.gpsLocked = true ∧ s.arm.upright = 100) ∨ ¬s.arm.slockEnable = true ↔
        s.ready = true ∨ s.console.slock = false := by
      simp [State.ready, State.console]
    dsimp only
    split_ifs with hlock
    · obtain ⟨hstate, hquiet⟩ := armSendSignal_spec env (Or.inl rfl) s
      refine ⟨"successful ARM", ?_⟩
      rw [hsignal]
      refine ⟨⟨_, rfl, hquiet⟩, ?_⟩
      rw [hhandle .arm hrequested, Console.perform, if_pos (hallowed.mp hlock), hstate]
      rfl
    · refine ⟨"ARM failed due to sensor lock", ?_⟩
      rw [hreply]
      apply answered_reply
      rw [hhandle .arm hrequested, Console.perform, if_neg (mt hallowed.mpr hlock)]
  | safe =>
    obtain ⟨hstate, hquiet⟩ := armSendSignal_spec env (Or.inr rfl) s
    refine ⟨"successful SAFE", ?_⟩
    rw [hsignal]
    refine ⟨⟨_, rfl, hquiet⟩, ?_⟩
    rw [hhandle .safe hrequested, hstate]
    rfl
  | enSlock =>
    refine ⟨"successful EN_SLOCK", ?_⟩
    rw [hreply]
    apply answered_reply
    rw [hhandle .slock hrequested]
    rfl
  | diSlock =>
    refine ⟨"Sensor Lock Overridden", ?_⟩
    rw [hreply]
    apply answered_reply
    rw [hhandle .override hrequested]
    rfl
  | unknown =>
    refine ⟨"UNKNOWN COMMAND", ?_⟩
    rw [hreply]
    apply answered_reply
    unfold Console.handle
    rw [hrequested]
    exact (if_pos hroute).symm

lemma answered_rcRawTestrc {p : Packet} (hroute : Ethmux.route p.port = .rc) (s : State K) :
    ∃ message, Answered p s (rcRawTestrc env p.received s).1 (rcRawTestrc env p.received s).2
      message := by
  have hreply : ∀ (message : String) (s : State K),
      inOrder ([RollControl.Output.sendServoResponse message].map (rcOutput env)) s =
        (s, [.respond message]) := fun _ _ => rfl
  have hrc : rcRawTestrc env p.received s =
      inOrder ((RollControl.rcRawTestrc (env.clock s.reads) p.received s.rc).2.map (rcOutput env))
        { s with
          reads := s.reads + 1
          rc := (RollControl.rcRawTestrc (env.clock s.reads) p.received s.rc).1 } := rfl
  have hne : Ethmux.route p.port ≠ .arm := by
    rw [hroute]
    decide
  have hrequested : Operator.requested p =
      if compareBufferToCmd p.received "ENABLE" then some .enableServo
      else if compareBufferToCmd p.received "DISABLE" then some .disableServo
      else none := if_neg hne
  rw [hrc]
  cases harmed : s.rc.armed with
  | true =>
    have hstep : RollControl.rcRawTestrc (env.clock s.reads) p.received s.rc =
        (s.rc, [.sendServoResponse "Roll control servos state not changed due to being armed"]) := by
      unfold RollControl.rcRawTestrc
      rw [harmed]
      rfl
    refine ⟨"Roll control servos state not changed due to being armed", ?_⟩
    rw [hstep, hreply]
    have hconsole : s.console.armed = true := harmed
    refine answered_reply (Eq.symm ?_)
    -- whatever was asked for, it is refused
    split_ifs at hrequested
    · rw [Operator.handle_of_requested hrequested, Console.perform, if_pos hconsole]
      rfl
    · rw [Operator.handle_of_requested hrequested, Console.perform, if_pos hconsole]
      rfl
    · unfold Console.handle
      rw [hrequested]
      exact (if_neg hne).trans (if_pos hconsole)
  | false =>
    have hconsole : ¬s.console.armed = true := Bool.eq_false_iff.mp harmed
    rw [RollControl.rcRawTestrc_eq_servoCommand _ _ harmed, RollControl.lookup_servoCommands]
    split_ifs at hrequested ⊢
    · refine ⟨"Roll control servos enabled", ?_⟩
      refine answered_reply (Eq.symm ?_)
      rw [Operator.handle_of_requested hrequested, Console.perform, if_neg hconsole]
      rfl
    · -- the fins are centred first, with the servo off
      refine ⟨"Roll control servos disabled", ?_⟩
      obtain ⟨hstate, hcalls⟩ := rcOutputs_quiet env
        (rcQuiet_of_off (env.clock s.reads) 0 (s := RollControl.setServoEnable false s.rc) rfl)
        { s with
          reads := s.reads + 1
          rc := RollControl.setServoEnable false s.rc }
      rw [RollControl.servoCommand, List.map_append, inOrder_append, hreply]
      refine ⟨⟨_, rfl, hcalls⟩, ?_⟩
      rw [Operator.handle_of_requested hrequested, Console.perform, if_neg hconsole]
      exact congrArg (·, _) hstate
    · refine ⟨"Unknown servo command", ?_⟩
      refine answered_reply (Eq.symm ?_)
      unfold Console.handle
      rw [hrequested]
      exact (if_neg hne).trans (if_neg hconsole)

/-! ## Steps -/

/-- What `demux` can call for a datagram that is no command. -/
lemma mem_demux_of_not_isCommand {starttime : Timespec} {p : Packet}
    (h : ¬Operator.IsCommand p) {t : Ethmux.State} {o : Ethmux.Output}
    (ho : o ∈ (Ethmux.demux starttime p t).2) :
    (∃ expected received, o = Ethmux.formatSequencedError p.port (toPsasTime starttime p.ts)
        expected received) ∨
      ∃ type, Ethmux.WellFormed type p ∧
        o = Ethmux.callHandler type (toPsasTime starttime p.ts) (p.received.drop 4) := by
  change o ∈ ((Ethmux.machine starttime).step t p).2 at ho
  by_cases hnil : p.received = []
  · change o ∈ (Ethmux.demux starttime p t).2 at ho
    rw [Ethmux.demux_of_nil _ _ hnil] at ho
    cases ho
  · cases hroute : Ethmux.route p.port with
    | sequenced type =>
      rcases Ethmux.datagram_cases type p with hwell | hwrong | hother
      · rw [Ethmux.step_wellFormed starttime t hwell] at ho
        rcases List.mem_append.mp ho with ho | ho
        · split_ifs at ho
          · cases ho
          · exact Or.inl ⟨_, _, List.mem_singleton.mp ho⟩
        · split_ifs at ho
          · cases ho
          · exact Or.inr ⟨type, hwell, List.mem_singleton.mp ho⟩
      · rw [Ethmux.step_wrongLength starttime t hwrong] at ho
        exact Or.inl ⟨_, _, List.mem_singleton.mp ho⟩
      · exact absurd ⟨hroute, hnil⟩ hother
    | arm => exact absurd ⟨Or.inl hroute, hnil⟩ h
    | rc => exact absurd ⟨Or.inr hroute, hnil⟩ h
    | default =>
      change o ∈ (Ethmux.demux starttime p t).2 at ho
      rw [Ethmux.demux_of_ne_nil _ _ hnil, hroute] at ho
      cases ho

/-- A datagram that is no command. -/
lemma steady_demux {p : Packet} (h : ¬Operator.IsCommand p) : Steady (demux env p) := by
  intro s
  have hout : Steady (inOrder ((Ethmux.demux env.starttime p s.ethmux).2.map (ethOutput env))) := by
    apply guarantees_inOrder steady_composable
    intro o ho
    rcases mem_demux_of_not_isCommand h ho with ⟨expected, received, rfl⟩ | ⟨type, -, rfl⟩
    · exact guarantees_singleton steady_composable (steady_log env _)
    · exact steady_demuxed env _ _
  exact hout { s with ethmux := (Ethmux.demux env.starttime p s.ethmux).1 }

/-- A datagram that is one. -/
lemma answered_demux {p : Packet} (h : Operator.IsCommand p) (s : State K) :
    ∃ message, Answered p s (demux env p s).1 (demux env p s).2 message := by
  have hsingle : ∀ (a : Action K) (s : State K), inOrder [inOrder [a]] s = a s := by
    intro a s
    rw [inOrder_cons, inOrder_cons, inOrder_nil, List.append_nil]
    exact Prod.ext rfl (List.append_nil _)
  have hdemux : demux env p s = inOrder
      ((Ethmux.demux env.starttime p s.ethmux).2.map (ethOutput env))
      { s with ethmux := (Ethmux.demux env.starttime p s.ethmux).1 } := rfl
  rw [hdemux, Ethmux.demux_of_ne_nil _ _ h.2]
  rcases h.1 with hroute | hroute
  · rw [hroute]
    have hone : inOrder ([Ethmux.Output.demuxedARM p.received
        (toPsasTime env.starttime p.ts)].map (ethOutput env)) s = armRawIn env p.received s :=
      hsingle _ s
    show ∃ message, Answered _ s (inOrder ([Ethmux.Output.demuxedARM p.received _].map _) s).1
      (inOrder ([Ethmux.Output.demuxedARM p.received _].map _) s).2 message
    rw [hone]
    exact answered_armRawIn env hroute s
  · rw [hroute]
    have hone : inOrder ([Ethmux.Output.demuxedRC p.received
        (toPsasTime env.starttime p.ts)].map (ethOutput env)) s = rcRawTestrc env p.received s :=
      hsingle _ s
    show ∃ message, Answered _ s (inOrder ([Ethmux.Output.demuxedRC p.received _].map _) s).1
      (inOrder ([Ethmux.Output.demuxedRC p.received _].map _) s).2 message
    rw [hone]
    exact answered_rcRawTestrc env hroute s

/-- The command of an event. -/
def commandOf : Program.Event → Option Packet
  | .datagram p => if Operator.IsCommand p then some p else none
  | _ => none

/-- **One step.** It handles no command, and goes unnoticed, or one, and answers it. -/
theorem step_spec (s : State K) (e : Program.Event) :
    (commandOf e = none ∧ Unnoticed s.console (step env s e.toMain).1.console ∧
        ∀ o ∈ (step env s e.toMain).2, Quiet (s.rc.enableServo = true) o) ∨
      ∃ p message, commandOf e = some p ∧
        Answered p s (step env s e.toMain).1 (step env s e.toMain).2 message := by
  cases e with
  | datagram p =>
    by_cases hcommand : Operator.IsCommand p
    · obtain ⟨message, hanswered⟩ := answered_demux env hcommand s
      exact Or.inr ⟨p, message, if_pos hcommand, hanswered⟩
    · exact Or.inl ⟨if_neg hcommand, steady_demux env hcommand s⟩
  | logTimeout => exact Or.inl ⟨rfl, steady_log env _ s⟩
  | versionCallback reply => exact Or.inl ⟨rfl, steady_versionCallback env reply s⟩

end Main

/-! ## Runs -/

namespace Operator

/-- What the replies so far tell, kept up over some calls. -/
def observer {ω : Type} (reply : ω → Option String) : Machine Console ω Empty where
  init := .init
  step := fun c o => ((reply o).elim c c.read, [])

lemma after_observer {ω : Type} (reply : ω → Option String) (c : Console) (out : List ω) :
    (observer reply).after c out = (out.filterMap reply).foldl Console.read c := by
  induction out generalizing c with
  | nil => rfl
  | cons o out ih =>
    rw [Machine.after_cons, ih]
    cases hreply : reply o with
    | none =>
      rw [List.filterMap_cons_none hreply]
      simp [observer, hreply]
    | some message =>
      rw [List.filterMap_cons_some hreply]
      simp [observer, hreply]

/-- Calls that are no replies tell nothing. -/
lemma along_of_silent {ω : Type} {reply : ω → Option String} {Q : Console → ω → Prop} {c : Console}
    {out : List ω} (h : ∀ o ∈ out, reply o = none ∧ Q c o) :
    out.filterMap reply = [] ∧ (observer reply).Along Q c out := by
  induction out with
  | nil => exact ⟨rfl, trivial⟩
  | cons o out ih =>
    obtain ⟨hnone, hQ⟩ := h o List.mem_cons_self
    obtain ⟨hrest, halong⟩ := ih fun o' ho' => h o' (List.mem_cons_of_mem o ho')
    have hstep : ((observer reply).step c o).1 = c := by simp [observer, hnone]
    rw [List.filterMap_cons_none hnone, Machine.along_cons, hstep]
    exact ⟨hrest, hQ, halong⟩

/-- What the operator knows of a state: the lock, the arming, and that the servo is off. -/
structure Knows (c c' : Console) : Prop where
  slock : c.slock = c'.slock
  armed : c.armed = c'.armed
  granted : c'.granted = true → c.granted = true

lemma Knows.read {c c' : Console} (h : Knows c c') (message : String) :
    Knows (c.read message) (c'.read message) := by
  unfold Console.read
  split_ifs
  · exact ⟨h.slock, rfl, fun _ => rfl⟩
  · exact ⟨h.slock, rfl, id⟩
  · exact ⟨rfl, h.armed, h.granted⟩
  · exact ⟨rfl, h.armed, h.granted⟩
  · exact ⟨h.slock, h.armed, fun _ => rfl⟩
  · exact ⟨h.slock, h.armed, id⟩
  · exact h

lemma console_snoc (messages : List String) (message : String) :
    console (messages ++ [message]) = (console messages).read message :=
  List.foldl_append ..

end Operator

namespace Main

open Operator (observer Knows)
open Program (response)

/-- What the operator can rely on: replies agree, and the servo is enabled if it may be. -/
def Reliable (c : Console) : Output K → Prop
  | .log _ => True
  | .rsReceiveAdj adj => adj.data.disable = 0 → c.granted = true
  | .respond message => Agrees c message

omit [Field K] [LinearOrder K] in
lemma reliable_of_quiet {on : Prop} {c : Console} (hon : on → c.granted = true)
    {out : List (Output K)} (hquiet : ∀ o ∈ out, Quiet on o) :
    out.filterMap response = [] ∧ (observer response).Along Reliable c out := by
  apply Operator.along_of_silent
  intro o ho
  have hcall := hquiet o ho
  cases o with
  | log call => exact ⟨rfl, trivial⟩
  | rsReceiveAdj adj => exact ⟨rfl, fun hdisable => hon (hcall hdisable)⟩
  | respond message => exact hcall.elim

omit [Field K] [LinearOrder K] in
lemma Answered.replies {p : Packet} {s s' : State K} {out : List (Output K)} {message : String}
    (h : Answered p s s' out message) : out.filterMap response = [message] := by
  obtain ⟨calls, rfl, hquiet⟩ := h.calls
  obtain ⟨hnone, -⟩ := reliable_of_quiet (c := .init) (fun hfalse : False => hfalse.elim) hquiet
  rw [List.filterMap_append, hnone]
  rfl

omit [Field K] [LinearOrder K] in
/-- A step that goes unnoticed. -/
lemma observed_of_unnoticed {s s' : State K} {out : List (Output K)}
    (h : Unnoticed s.console s'.console)
    (hquiet : ∀ o ∈ out, Quiet (s.rc.enableServo = true) o) {c : Console}
    (hc : Knows c s.console) :
    out.filterMap response = [] ∧ (observer response).Along Reliable c out ∧
      Knows c s'.console := by
  obtain ⟨hnone, halong⟩ := reliable_of_quiet hc.granted hquiet
  exact ⟨hnone, halong, hc.slock.trans h.slock.symm, hc.armed.trans h.armed.symm,
    fun hon => hc.granted (h.granted hon)⟩

omit [Field K] [LinearOrder K] in
/-- A step that is answered. -/
lemma observed_of_answered {p : Packet} {s s' : State K} {out : List (Output K)}
    {message : String} (h : Answered p s s' out message) {c : Console}
    (hc : Knows c s.console) :
    out.filterMap response = [message] ∧ (observer response).Along Reliable c out ∧
      Knows (c.read message) s'.console := by
  obtain ⟨calls, hout, hquiet⟩ := h.calls
  obtain ⟨hnone, halong⟩ := reliable_of_quiet (c := c) (fun hfalse : False => hfalse.elim) hquiet
  have hgiven : Agrees s.console message := h.message ▸ Operator.agrees_handle _ _ p
  have hagrees : Agrees c message :=
    ⟨fun hm => hc.slock.trans (hgiven.declined hm),
      fun hm => hc.armed.trans (hgiven.armed hm),
      fun hm => hc.armed.trans (hgiven.tested hm)⟩
  have hsame : (observer response).after c calls = c := by
    rw [Operator.after_observer, hnone, List.foldl_nil]
  refine ⟨h.replies, ?_, ?_⟩
  · rw [hout, Machine.along_append, hsame]
    exact ⟨halong, hagrees, trivial⟩
  · rw [h.read]
    exact hc.read message

/-- **A run as the operator sees it.** -/
theorem front_observed [FloorSemiring K] (env : Env K) (es : List Program.Event) :
    List.Forall₂ (fun p message => message ∈ Operator.answersTo p) (es.filterMap commandOf)
        (((Program.front env).outputs es).filterMap response) ∧
      (observer response).Along Reliable .init ((Program.front env).outputs es) ∧
      Knows (Operator.console (((Program.front env).outputs es).filterMap response))
        ((Program.front env).run es).console := by
  refine (Program.front env).run_induction (P := fun es s out =>
    List.Forall₂ (fun p message => message ∈ Operator.answersTo p) (es.filterMap commandOf)
        (out.filterMap response) ∧
      (observer response).Along Reliable .init out ∧
      Knows (Operator.console (out.filterMap response)) s.console)
    ⟨.nil, trivial, rfl, rfl, id⟩ ?_ es
  intro es e ⟨hanswers, halong, hknows⟩
  have hafter : (observer response).after .init ((Program.front env).outputs es) =
      Operator.console (((Program.front env).outputs es).filterMap response) :=
    Operator.after_observer _ _ _
  have hstep : (Program.front env).step ((Program.front env).run es) e =
      step env ((Program.front env).run es) e.toMain := rfl
  rw [List.filterMap_append, List.filterMap_append, Machine.along_append, hafter, hstep]
  -- the replies so far are what the operator knows when the event arrives
  rcases step_spec env ((Program.front env).run es) e with
    ⟨hcommand, hunnoticed, hquiet⟩ | ⟨p, message, hcommand, hanswered⟩
  · obtain ⟨hnone, hreliable, hknows'⟩ := observed_of_unnoticed hunnoticed hquiet hknows
    rw [hnone, List.filterMap_cons_none hcommand, List.filterMap_nil, List.append_nil,
      List.append_nil]
    exact ⟨hanswers, ⟨halong, hreliable⟩, hknows'⟩
  · obtain ⟨hreply, hreliable, hknows'⟩ := observed_of_answered hanswered hknows
    rw [hreply, List.filterMap_cons_some hcommand, List.filterMap_nil, Operator.console_snoc]
    have hexpected : message ∈ Operator.answersTo p :=
      hanswered.message ▸ Operator.handle_reply_mem _ _ p
    exact ⟨List.rel_append hanswers (.cons hexpected .nil), ⟨halong, hreliable⟩, hknows'⟩

end Main

/-! ## The process -/

namespace Program

open Operator (observer Knows IsCommand answersTo talk)

variable [FloorSemiring K] (env : Main.Env K)

/-- A reply among the system calls. -/
def replyOf : Syscall → Option String
  | .reply message => some message
  | _ => none

/-- What the operator can rely on at the other end. -/
def Reliable (c : Console) : Syscall → Prop
  | .logger _ => True
  | .servo none => True
  | .servo (some data) => data.getLast? = some 0 → c.granted = true
  | .reply message => Agrees c message

omit [Field K] [LinearOrder K] [FloorSemiring K] in
lemma filterMap_replyOf (out : List Syscall) : out.filterMap replyOf = replies out := by
  apply List.filterMap_congr
  intro o _
  cases o <;> rfl

/-- The last byte of a datagram to the servo is the flag. -/
lemma getLast?_rsReceiveAdj {adj : ROLLMessage K} {seq : UInt32} {data : Bytes}
    (h : some data ∈ (RollServo.step seq adj).2) : data.getLast? = some adj.data.disable := by
  unfold RollServo.step RollServo.rsReceiveAdj at h
  cases hticks : RollServo.ticks adj with
  | none =>
    rw [hticks] at h
    cases List.mem_singleton.mp h
  | some ticks =>
    rw [hticks] at h
    cases List.mem_singleton.mp h
    rfl

/-- The devices pass everything on. -/
lemma reliable_devices {out : List (Main.Output K)} {c : Console}
    (h : (observer response).Along Main.Reliable c out) (s : Devices) :
    (observer replyOf).Along Reliable c (devices.emits s out) := by
  induction out generalizing c s with
  | nil => trivial
  | cons o out ih =>
    rw [Machine.along_cons] at h
    have hone : (observer replyOf).Along Reliable c (devices.step s o).2 := by
      cases o with
      | log call =>
        refine (Operator.along_of_silent fun o' ho' => ?_).2
        obtain ⟨call', -, rfl⟩ := List.mem_map.mp ho'
        exact ⟨rfl, trivial⟩
      | rsReceiveAdj adj =>
        refine (Operator.along_of_silent fun o' ho' => ?_).2
        obtain ⟨written, hwritten, rfl⟩ := List.mem_map.mp ho'
        refine ⟨rfl, ?_⟩
        cases written with
        | none => trivial
        | some data =>
          intro hlast
          rw [getLast?_rsReceiveAdj hwritten] at hlast
          exact h.1 (Option.some.inj hlast)
      | respond message => exact ⟨h.1, trivial⟩
    -- behind this call, both ends know the same
    have hafter : (observer replyOf).after c (devices.step s o).2 =
        ((observer response).step c o).1 := by
      rw [Operator.after_observer, filterMap_replyOf, replies_step]
      cases hreply : response o with
      | none => simp [observer, hreply]
      | some message => simp [observer, hreply]
    rw [Machine.emits_cons, Machine.along_append, hafter]
    exact ⟨hone, ih h.2 (devices.step s o).1⟩

lemma reliable_session (es : List Event) :
    (observer replyOf).Along Reliable .init (session env es) := by
  obtain ⟨-, halong, -⟩ := Main.front_observed env es
  have houtputs : (machine env).outputs es =
      devices.emits (devices (K := K)).init ((front env).outputs es) := by
    rw [(machine_runs env es).2, mainOutputs, ← outputs_front]
    rfl
  have hfinal : ∀ c : Console,
      (observer replyOf).Along Reliable c (final env ((machine env).run es)) := by
    intro c
    refine (Operator.along_of_silent fun o ho => ?_).2
    obtain ⟨call, -, rfl⟩ := List.mem_map.mp ho
    exact ⟨rfl, trivial⟩
  rw [session, Machine.along_append, houtputs]
  exact ⟨reliable_devices halong _, hfinal _⟩

/-- **The replies tell the truth.** After every regular run they tell whether the sensor lock is on
and the rocket armed, and no servo is on that they have not granted. Each reply agrees with those
before it, and each datagram that enables the servo has been granted by the replies before it. -/
theorem replies_tell_state {ok : ℕ → Bool} (es : List Event) (h : Regular env ok es) :
    (∀ pre message post, sent ok (session env es) = pre ++ .reply message :: post →
        Agrees (Operator.console (replies pre)) message) ∧
      (∀ pre data post, sent ok (session env es) = pre ++ .servo (some data) :: post →
        data.getLast? = some 0 → (Operator.console (replies pre)).granted = true) ∧
      ((machine env).run es).1.arm.slockEnable =
        (Operator.console (replies (sent ok (session env es)))).slock ∧
      ((machine env).run es).1.rc.armed =
        (Operator.console (replies (sent ok (session env es)))).armed ∧
      (((machine env).run es).1.rc.enableServo = true →
        (Operator.console (replies (sent ok (session env es)))).granted = true) := by
  rw [sent_of_ok h.writes]
  have hreliable := reliable_session env es
  rw [Machine.along_iff] at hreliable
  have hconsole : ∀ pre, (observer replyOf).after .init pre = Operator.console (replies pre) := by
    intro pre
    rw [Operator.after_observer, filterMap_replyOf]
    rfl
  have hknows : Knows (Operator.console (replies (session env es)))
      ((machine env).run es).1.console := by
    obtain ⟨-, -, hknows⟩ := Main.front_observed env es
    rw [replies_session, (machine_runs env es).1, mainOutputs, ← run_front, ← outputs_front]
    exact hknows
  refine ⟨fun pre message post hsplit => ?_, fun pre data post hsplit => ?_, hknows.slock.symm,
    hknows.armed.symm, hknows.granted⟩
  · rw [← hconsole]
    exact hreliable pre _ post hsplit
  · rw [← hconsole]
    exact hreliable pre _ post hsplit

/-- Armed, one IMU sample, and safe again: the two replies in front of it grant the datagram that
enables the servo, and the third takes that back. -/
theorem replies_tell_state_armed :
    (Operator.console ["Sensor Lock Overridden", "successful ARM"]).granted = true ∧
      ((machine Main.stillEnv).run armedRun).1.arm.slockEnable = false ∧
      ((machine Main.stillEnv).run armedRun).1.rc.armed = false ∧
      ((machine Main.stillEnv).run armedRun).1.rc.enableServo = false := by
  obtain ⟨-, hgranted, hslock, harmed, hservo⟩ :=
    replies_tell_state Main.stillEnv armedRun regular_armedRun
  have hconsole : Operator.console (replies (sent noFailures (session Main.stillEnv armedRun))) =
      ⟨false, false, false⟩ := by
    decide +kernel
  rw [hconsole] at hslock harmed hservo
  have hsplit : sent noFailures (session Main.stillEnv armedRun) =
      [.reply "Sensor Lock Overridden", .reply "successful ARM"] ++
        .servo (some [0, 0, 0, 0, 0x62, 0x72, 0]) ::
          (sent noFailures (session Main.stillEnv armedRun)).drop 3 := by
    decide +kernel
  exact ⟨hgranted _ _ _ hsplit rfl, hslock, harmed,
    Bool.eq_false_iff.mpr fun hon => Bool.false_ne_true (hservo hon)⟩

omit [Field K] [LinearOrder K] [FloorSemiring K] in
lemma filterMap_commandOf (es : List Event) :
    es.filterMap Main.commandOf = (packets es).filter (IsCommand ·) := by
  unfold packets
  rw [← List.filterMap_eq_filter, List.filterMap_filterMap]
  apply List.filterMap_congr
  intro e _
  cases e with
  | datagram p =>
    by_cases hp : IsCommand p
    · simp [Main.commandOf, Option.guard, hp]
    · simp [Main.commandOf, Option.guard, hp]
  | logTimeout => rfl
  | versionCallback reply => rfl

/-- What an action does behind some events, and what it is answered with. -/
def performed (es : List Event) (action : Action) : Console × String :=
  ((machine env).run es).1.console.perform ((machine env).run es).1.ready action

/-- The step in which an action of `FC` arrives. -/
lemma step_talk (pre : List Event) (action : Action) (ts : Timespec) :
    ((machine env).run (pre ++ [.datagram (talk action ts)])).1.console =
        (performed env pre action).1 ∧
      ((front env).step ((front env).run pre) (.datagram (talk action ts))).2.filterMap response =
        [(performed env pre action).2] := by
  obtain ⟨message, hanswered⟩ :=
    Main.answered_demux env (Operator.isCommand_talk action ts) ((front env).run pre)
  have hstate : ∀ es, ((machine env).run es).1 = (front env).run es := by
    intro es
    rw [(machine_runs env es).1, run_front]
  have hhandle : ((front env).run pre).console.handle ((front env).run pre).ready
      (talk action ts) = performed env pre action := by
    rw [Operator.handle_of_requested (Operator.requested_talk action ts), performed, hstate]
  rw [hstate, Machine.run_snoc, ← hhandle, ← hanswered.message]
  exact ⟨hanswered.console, hanswered.replies⟩

/-- **Commands are obeyed, and answered one by one.** The replies answer the commands in order, each
with one reply. Each command of `FC` does what its action stands for, in the state it arrives in,
and the reply in its place says so. -/
theorem commands_answered {ok : ℕ → Bool} (es : List Event) (h : Regular env ok es) :
    List.Forall₂ (fun p message => message ∈ answersTo p)
        ((packets es).filter (IsCommand ·)) (replies (sent ok (session env es))) ∧
      ∀ pre action ts post, es = pre ++ .datagram (talk action ts) :: post →
        ((machine env).run (pre ++ [.datagram (talk action ts)])).1.console =
            (performed env pre action).1 ∧
          (replies (sent ok (session env es)))[((packets pre).filter (IsCommand ·)).length]? =
            some (performed env pre action).2 := by
  have hanswers : ∀ es, List.Forall₂ (fun p message => message ∈ answersTo p)
      ((packets es).filter (IsCommand ·)) (((front env).outputs es).filterMap response) :=
    fun es => filterMap_commandOf es ▸ (Main.front_observed env es).1
  rw [sent_of_ok h.writes, replies_session, mainOutputs, ← outputs_front]
  refine ⟨hanswers es, ?_⟩
  rintro pre action ts post rfl
  obtain ⟨hconsole, hreply⟩ := step_talk env pre action ts
  refine ⟨hconsole, ?_⟩
  -- before it there are as many replies as commands
  rw [(hanswers pre).length_eq, Machine.outputs_append, Machine.emits_cons, List.filterMap_append,
    List.filterMap_append, hreply, List.getElem?_append_right (le_refl _), Nat.sub_self]
  rfl

/-- Arming is declined, the lock overridden, arming granted, and a test command refused. -/
def talkRun : List Event :=
  [Action.arm, .override, .arm, .enableServo].map fun action => .datagram (talk action ⟨0, 0⟩)

/-- The same command has two outcomes in that run. -/
theorem commands_answered_talk :
    (replies (sent noFailures (session Main.stillEnv talkRun))).length = 4 ∧
      (replies (sent noFailures (session Main.stillEnv talkRun)))[0]? =
        some "ARM failed due to sensor lock" ∧
      ((machine Main.stillEnv).run (talkRun.take 1)).1.console = ⟨true, false, false⟩ ∧
      (replies (sent noFailures (session Main.stillEnv talkRun)))[2]? = some "successful ARM" ∧
      ((machine Main.stillEnv).run (talkRun.take 3)).1.console = ⟨false, true, true⟩ := by
  have hregular : Regular Main.stillEnv noFailures talkRun :=
    regular_of_no_chunk _ (by decide) fun _ => rfl
  obtain ⟨hanswers, htalk⟩ := commands_answered Main.stillEnv talkRun hregular
  obtain ⟨hlocked, hdeclined⟩ := htalk [] .arm ⟨0, 0⟩ (talkRun.drop 1) rfl
  obtain ⟨harmed, hgranted⟩ := htalk (talkRun.take 2) .arm ⟨0, 0⟩ (talkRun.drop 3) rfl
  have hfirst : performed Main.stillEnv [] .arm =
      (⟨true, false, false⟩, "ARM failed due to sensor lock") := by
    decide +kernel
  have hthird : performed Main.stillEnv (talkRun.take 2) .arm =
      (⟨false, true, true⟩, "successful ARM") := by
    decide +kernel
  rw [hfirst] at hlocked hdeclined
  rw [hthird] at harmed hgranted
  exact ⟨hanswers.length_eq.symm, hdeclined, hlocked, hgranted, harmed⟩

end Program
end FlightComputer
