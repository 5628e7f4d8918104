import FlightComputer.CommandTheorems
import FlightComputer.FlightLogTheorems
import FlightComputer.Steering

/-!
# What steers the fins, and what the log says about it

What the whole program tells the servo is what `Steering.machine` tells it on the events that
can be read off the program's own calls: off the records it logs, and off its replies to test
commands (`main_steering`). So the servo is told nothing that the log and those replies do not
account for.
-/

namespace FlightComputer

open Receiver
open Logger (Record recordOf recordCodec)
open Ethmux (Packet Source delivery)

variable {K : Type} [Field K] [LinearOrder K]

/-! ## Readings of the clock -/

namespace Steering

/-- A call into `rollcontrol.c` that does the same at any time. -/
def Timeless (event : Timestamp → RollControl.Event K) : Prop :=
  ∀ libm s clock clock', (RollControl.step libm s (event clock)).1 =
      (RollControl.step libm s (event clock')).1 ∧
    (RollControl.step libm s (event clock)).2.map effect =
      (RollControl.step libm s (event clock')).2.map effect

omit [Field K] [LinearOrder K] in
lemma commands_congr {out out' : List (RollControl.Output K)}
    (h : out.map effect = out'.map effect) : commands out = commands out' := by
  have hread : ∀ out : List (RollControl.Output K), commands out =
      (out.map effect).filterMap Effect.told := by
    intro out
    rw [commands, RollControl.rolls, List.map_filterMap, List.filterMap_map]
    apply List.filterMap_congr
    intro o _
    cases o with
    | rcSendServo m => rfl
    | sendServoResponse message => rfl
  rw [hread, hread, h]

omit [Field K] [LinearOrder K] in
lemma commands_append (out out' : List (RollControl.Output K)) :
    commands (out ++ out') = commands out ++ commands out' := by
  unfold commands
  rw [RollControl.rolls_append, List.map_append]

lemma timeless_rcReceiveArm (signal : String) :
    Timeless (K := K) fun clock => .rcReceiveArm clock signal := by
  intro libm s clock clock'
  unfold RollControl.step RollControl.rcReceiveArm
  dsimp only
  split_ifs
  · exact ⟨rfl, rfl⟩
  · exact ⟨rfl, rfl⟩
  · exact ⟨rfl, rfl⟩

lemma timeless_rcRawTestrc (data : Bytes) :
    Timeless (K := K) fun clock => .rcRawTestrc clock data := by
  intro libm s clock clock'
  unfold RollControl.step RollControl.rcRawTestrc
  dsimp only
  split_ifs
  · exact ⟨rfl, rfl⟩
  · exact ⟨rfl, rfl⟩
  · exact ⟨rfl, rfl⟩
  · exact ⟨rfl, rfl⟩

lemma timeless_rcRawUmb (ID : MessageID) (timestamp : Timestamp) (data : Bytes) :
    Timeless (K := K) fun _ => .rcRawUmb ID timestamp data := fun _ _ _ _ => ⟨rfl, rfl⟩

lemma timeless_rcReceiveState (ID : MessageID) (timestamp : Timestamp) (state : StateData K) :
    Timeless fun clock => .rcReceiveState clock ID timestamp state := by
  intro libm s clock clock'
  unfold RollControl.step
  dsimp only
  by_cases hoff : s.launched = true ∧ s.enableServo = true ∧ s.timeout < fromPsasTime timestamp
  · rw [RollControl.rcReceiveState_timeout libm clock ID timestamp state hoff.1 hoff.2.1 hoff.2.2,
      RollControl.rcReceiveState_timeout libm clock' ID timestamp state hoff.1 hoff.2.1 hoff.2.2]
    exact ⟨rfl, rfl⟩
  · rw [RollControl.rcReceiveState_no_timeout libm clock ID timestamp state hoff,
      RollControl.rcReceiveState_no_timeout libm clock' ID timestamp state hoff]
    split_ifs
    · exact ⟨rfl, rfl⟩
    · exact ⟨rfl, rfl⟩

end Steering

/-! ## Single steps -/

namespace Steering

/-- A step that is one call into `rollcontrol.c`. -/
lemma step_of_rcEvents {s : State K} {e : Event} {rcEvent : RollControl.Event K}
    (hrc : rcEvents s.state e = [rcEvent]) (libm : Libm K) :
    step libm s e =
      (⟨estimate s.state e, (RollControl.step libm s.rc rcEvent).1⟩,
        commands (RollControl.step libm s.rc rcEvent).2) := by
  unfold step
  rw [hrc, Machine.emits_cons, Machine.emits_nil, List.append_nil]
  rfl

/-- The test command that is obeyed. -/
def obeyed (s : RollControl.State K) (data : Bytes) : Option String :=
  if s.armed then none else lookup RollControl.servoCommands data

end Steering

/-! ## Reading the calls of the program -/

namespace Main

open Steering

/-- The modules that steer. -/
def State.steering (s : State K) : Steering.State K := ⟨s.state, s.rc⟩

/-- What a call says: a record that is logged, or the reply to a test command that was obeyed. -/
def steeringEvent : Output K → Option Steering.Event
  | .log call => call.message.bind fun m => Steering.Event.ofRecord (recordOf m)
  | .rsReceiveAdj _ => none
  | .respond message =>
    if message = "Roll control servos enabled" then some (.testrc (ascii "ENABLE"))
    else if message = "Roll control servos disabled" then some (.testrc (ascii "DISABLE"))
    else none

/-- The IDs that say nothing, either of what steers or of what the servo is told. -/
def Irrelevant (ID : MessageID) : Prop :=
  ID ≠ messageID 'A' 'D' 'I' 'S' ∧ ID ≠ messageID 'R' 'N' 'H' 'U' ∧
    ID ≠ messageID 'M' 'E' 'S' 'G' ∧ ID ≠ messageID 'R' 'O' 'L' 'L'

instance (ID : MessageID) : Decidable (Irrelevant ID) := inferInstanceAs (Decidable (_ ∧ _))

variable {υ : Type} (env : Env K)

/-- `h` reads `w` off the two calls that tell the servo something and log it, and nothing off any
other call. -/
structure Reads (h : Output K → Option υ) (w : RollServoData K → List υ) : Prop where
  servo : ∀ n n' out, RollControl.IsRoll (env.clock n') out →
    [.rsReceiveAdj out, .log (Logger.logReceiveRc env.doubleBits (env.clock n) out)].filterMap h =
      w out.data
  message : ∀ call : Logger.Event, ∀ m ∈ call.message, m.ID ≠ messageID 'R' 'O' 'L' 'L' →
    h (.log call) = none
  flush : ∀ n, h (.log (.logTimeout (env.clock n))) = none
  respond : ∀ message, h (.respond message) = none

variable {h : Output K → Option υ} {w : RollServoData K → List υ}

/-- A receiver acts on the steering modules as its calls say. -/
abbrev Follows (h : Output K → Option υ) (w : RollServoData K → List υ) (a : Action K) : Prop :=
  a.Traces ((Steering.machine env.libm).expand w) State.steering steeringEvent h

/-- A receiver leaves the steering modules alone. -/
abbrev Leaves (a : Action K) : Prop :=
  a.Drives (Steering.machine env.libm) State.steering []

/-- A call that is not read at all. -/
def Unread (h : Output K → Option υ) (o : Output K) : Prop := steeringEvent o = none ∧ h o = none

variable {env}

lemma follows_of_leaves {a : Action K} (hstate : Leaves env a) (hcalls : a.Calls (Unread h)) :
    Follows env h w a :=
  traces_of_drives_nil hstate (fun s o ho => (hcalls s o ho).1) fun s o ho => (hcalls s o ho).2

omit [Field K] [LinearOrder K] in
lemma ofRecord_of_irrelevant {m : Message} (hm : Irrelevant m.ID) :
    Steering.Event.ofRecord (recordOf m) = none := by
  have hID : (recordOf m).ID = m.ID := rfl
  unfold Steering.Event.ofRecord
  rw [hID, if_neg hm.1, if_neg hm.2.1, if_neg hm.2.2.1]

variable (hr : Reads env h w)
include hr

omit [Field K] [LinearOrder K] in
lemma unread_message {call : Logger.Event} {m : Message} (hcall : call.message = some m)
    (hm : Irrelevant m.ID) : Unread h (.log call) := by
  refine ⟨?_, hr.message call m hcall hm.2.2.2⟩
  show call.message.bind _ = none
  rw [hcall]
  exact ofRecord_of_irrelevant hm

omit hr in
/-- One event, and what `h` reads of it. -/
lemma follows_step (libm : Libm K) (s : Steering.State K) (e : Steering.Event) :
    (Steering.step libm s e).1 = ((Steering.machine libm).expand w).after s [e] ∧
      (Steering.step libm s e).2.flatMap w = ((Steering.machine libm).expand w).emits s [e] :=
  ⟨rfl, (List.append_nil _).symm⟩

/-! ### Receivers that do not steer -/

lemma follows_logWrite {m : Message} (hm : Irrelevant m.ID) : Follows env h w (logWrite env m) :=
  follows_of_leaves (fun _ => rfl) (calls_log env fun _ => unread_message hr rfl hm)

lemma follows_filterReceive {m : Message} (hm : Irrelevant m.ID) :
    Follows env h w (filterReceive env m) := by
  unfold filterReceive
  cases Filter.filterReceive m with
  | filterToGround => exact traces_singleton (follows_logWrite hr hm)
  | filterToDisk =>
    exact traces_singleton
      (follows_of_leaves (fun _ => rfl) (calls_log env fun _ => unread_message hr rfl hm))

lemma follows_logTimeout : Follows env h w (logTimeout env) :=
  follows_of_leaves (fun _ => rfl) (calls_log env fun n => ⟨rfl, hr.flush n⟩)

lemma follows_versionCallback (reply : Bytes) : Follows env h w (versionCallback env reply) := by
  apply traces_singleton
  apply follows_of_leaves (fun _ => rfl)
  apply calls_getPsasTime
  intro n
  have hID : Irrelevant (messageID 'V' 'E' 'R' 'S') := by decide
  exact calls_log env fun n' => unread_message hr rfl hID

/-! ### `rollcontrol.c` -/

/-- What steers that a call out of `rollcontrol.c` says. -/
def replyEvent : RollControl.Output K → Option Steering.Event
  | .rcSendServo _ => none
  | .sendServoResponse message => steeringEvent (.respond message : Output K)

omit [Field K] [LinearOrder K] in
/-- One call out of `rollcontrol.c`. -/
lemma rcOutput_calls {n : ℕ} {o : RollControl.Output K}
    (ho : ∀ m, o = .rcSendServo m → RollControl.IsRoll (env.clock n) m) (s : State K) :
    (rcOutput env o s).1.steering = s.steering ∧
      (rcOutput env o s).2.filterMap h = (commands [o]).flatMap w ∧
      (rcOutput env o s).2.filterMap steeringEvent = [o].filterMap replyEvent := by
  cases o with
  | rcSendServo m =>
    have hroll := ho m rfl
    -- a ROLL record says nothing of what steers
    have hrecord : Steering.Event.ofRecord (recordOf
        { ID := m.ID
          timestamp := m.timestamp
          dataLength := m.dataLength
          data := store 8 (swapBytes 8 (env.doubleBits m.data.angle)) ++ [m.data.disable] }) =
        none := by
      have hID : ∀ m' : Message, m'.ID = messageID 'R' 'O' 'L' 'L' →
          Steering.Event.ofRecord (recordOf m') = none := by
        intro m' hm'
        have hID' : (recordOf m').ID = messageID 'R' 'O' 'L' 'L' := hm'
        unfold Steering.Event.ofRecord
        rw [hID', if_neg (by decide), if_neg (by decide), if_neg (by decide)]
      exact hID _ hroll.ID
    refine ⟨rfl, (hr.servo s.reads n m hroll).trans (List.append_nil _).symm, ?_⟩
    show [.rsReceiveAdj m, .log (Logger.logReceiveRc env.doubleBits (env.clock s.reads) m)].filterMap
      steeringEvent = []
    rw [List.filterMap_cons_none rfl]
    exact List.filterMap_cons_none hrecord
  | sendServoResponse message =>
    refine ⟨rfl, ?_, ?_⟩
    · exact List.filterMap_cons_none (hr.respond message)
    · show [Output.respond message].filterMap steeringEvent = _
      unfold replyEvent
      rfl

omit [Field K] [LinearOrder K] in
/-- All of them. -/
lemma rcOutputs_calls {n : ℕ} {out : List (RollControl.Output K)}
    (hout : ∀ m, .rcSendServo m ∈ out → RollControl.IsRoll (env.clock n) m) (s : State K) :
    (inOrder (out.map (rcOutput env)) s).1.steering = s.steering ∧
      (inOrder (out.map (rcOutput env)) s).2.filterMap h = (commands out).flatMap w ∧
      (inOrder (out.map (rcOutput env)) s).2.filterMap steeringEvent =
        out.filterMap replyEvent := by
  induction out generalizing s with
  | nil => exact ⟨rfl, rfl, rfl⟩
  | cons o out ih =>
    obtain ⟨hstate, hcalls, hevents⟩ := rcOutput_calls hr (o := o)
      (fun m hm => hout m (hm ▸ List.mem_cons_self)) s
    obtain ⟨hstates, hcalls', hevents'⟩ := ih (fun m hm => hout m (List.mem_cons_of_mem o hm))
      (rcOutput env o s).1
    rw [List.map_cons, inOrder_cons, List.filterMap_append, List.filterMap_append, hcalls, hevents,
      hcalls', hevents']
    refine ⟨hstates.trans hstate, ?_, ?_⟩
    · rw [← List.flatMap_append, ← commands_append, List.singleton_append]
    · rw [← List.filterMap_append, List.singleton_append]

/-- **A call into `rollcontrol.c`.** -/
lemma rc_calls {event : Timestamp → RollControl.Event K} (htime : Timeless event)
    (hclock : ∀ n, ∀ clock ∈ (event (env.clock n)).clock, clock = env.clock n) (s : State K) :
    (rc env event s).1.steering =
        ⟨s.state, (RollControl.step env.libm s.rc (event noClock)).1⟩ ∧
      (rc env event s).2.filterMap h =
        (commands (RollControl.step env.libm s.rc (event noClock)).2).flatMap w ∧
      (rc env event s).2.filterMap steeringEvent =
        (RollControl.step env.libm s.rc (event (env.clock s.reads))).2.filterMap replyEvent := by
  -- the clock is read in front of the call, and makes no difference to it
  obtain ⟨hstate, heffects⟩ := htime env.libm s.rc (env.clock s.reads) noClock
  have hroll : ∀ m, .rcSendServo m ∈ (RollControl.step env.libm s.rc
      (event (env.clock s.reads))).2 → RollControl.IsRoll (env.clock s.reads) m := by
    intro m hm
    obtain ⟨clock, hmem, hroll⟩ := RollControl.isRoll_of_mem_step hm
    rwa [hclock _ clock hmem] at hroll
  obtain ⟨hsteering, hcalls, hevents⟩ := rcOutputs_calls hr hroll
    { s with
      reads := s.reads + 1
      rc := (RollControl.step env.libm s.rc (event (env.clock s.reads))).1 }
  rw [← commands_congr heffects, ← hstate]
  exact ⟨hsteering, hcalls, hevents⟩

/-- A call into `rollcontrol.c` that is the step of some event, and says no event itself. -/
lemma rc_step {event : Timestamp → RollControl.Event K} (htime : Timeless event)
    (hclock : ∀ n, ∀ clock ∈ (event (env.clock n)).clock, clock = env.clock n)
    (hreply : ∀ libm s clock, (RollControl.step libm s (event clock)).2.filterMap replyEvent = [])
    (s : State K) {e : Steering.Event} (hrc : rcEvents s.state e = [event noClock])
    (hestimate : estimate s.state e = s.state) :
    (rc env event s).1.steering =
        ((Steering.machine env.libm).expand w).after s.steering [e] ∧
      (rc env event s).2.filterMap h =
        ((Steering.machine env.libm).expand w).emits s.steering [e] ∧
      (rc env event s).2.filterMap steeringEvent = [] := by
  obtain ⟨hstate, hcalls, hevents⟩ := rc_calls hr htime hclock s
  have hstep : Steering.step env.libm s.steering e = _ := step_of_rcEvents hrc env.libm
  rw [Machine.after_expand, Machine.emits_expand, Machine.emits_cons, Machine.emits_nil,
    List.append_nil]
  change _ = (Steering.step env.libm s.steering e).1 ∧
    _ = (Steering.step env.libm s.steering e).2.flatMap w ∧ _
  rw [hstep, hstate, hcalls, hevents, hreply]
  dsimp only
  rw [show s.steering.state = s.state from rfl, hestimate]
  exact ⟨rfl, rfl, rfl⟩

/-- The signal is logged behind what it does. -/
lemma follows_armSendSignal {code : String} (hcode : code = "ARM" ∨ code = "SAFE") :
    Follows env h w (armSendSignal env code) := by
  intro s
  have hreply : ∀ (libm : Libm K) (s : RollControl.State K) (clock : Timestamp),
      (RollControl.step libm s (.rcReceiveArm clock code)).2.filterMap replyEvent = [] := by
    intro libm s clock
    unfold RollControl.step RollControl.rcReceiveArm
    dsimp only
    split_ifs
    · rfl
    · rfl
    · rfl
  obtain ⟨hstate, hcalls, hevents⟩ := rc_step hr (timeless_rcReceiveArm code)
    (fun _ _ hclock => (Option.some.inj hclock).symm) hreply s (e := .signal code) rfl rfl
  -- the record of the signal is the event
  have hlog : ∀ s', (logReceiveArm env code s').2.filterMap steeringEvent = [.signal code] ∧
      (logReceiveArm env code s').2.filterMap h = [] := by
    intro s'
    have hrecord : ∀ stamp, Steering.Event.ofRecord (recordOf
        { ID := messageID 'M' 'E' 'S' 'G'
          timestamp := stamp
          dataLength := .ofNat (strlen code)
          data := literal code }) = some (.signal code) := by
      intro stamp
      rcases hcode with rfl | rfl
      · rfl
      · rfl
    have hID : messageID 'M' 'E' 'S' 'G' ≠ messageID 'R' 'O' 'L' 'L' := by decide
    exact ⟨List.filterMap_cons_some (hrecord _),
      List.filterMap_cons_none (hr.message _ _ rfl hID)⟩
  obtain ⟨hlogEvents, hlogCalls⟩ := hlog (rcReceiveArm env code s).1
  have hsend : armSendSignal env code s =
      ((logReceiveArm env code (rcReceiveArm env code s).1).1,
        (rcReceiveArm env code s).2 ++ ((logReceiveArm env code (rcReceiveArm env code s).1).2 ++ []))
      := rfl
  rw [hsend, List.append_nil, List.filterMap_append, List.filterMap_append, hlogEvents, hlogCalls,
    List.append_nil]
  change (rcReceiveArm env code s).2.filterMap steeringEvent = [] at hevents
  rw [hevents, List.nil_append]
  exact ⟨hstate, hcalls⟩

omit hr in
/-- What is obeyed is read off the reply, and what is not does nothing. -/
lemma testrc_spec (libm : Libm K) (s : RollControl.State K) (clock : Timestamp) (data : Bytes) :
    (RollControl.step libm s (.rcRawTestrc clock data)).2.filterMap replyEvent =
        ((obeyed s data).map fun cmd => Steering.Event.testrc (ascii cmd)).toList ∧
      (obeyed s data = none → (RollControl.step libm s (.rcRawTestrc clock data)).1 = s ∧
        commands (RollControl.step libm s (.rcRawTestrc clock data)).2 = []) ∧
      ∀ cmd, obeyed s data = some cmd → RollControl.step libm s (.rcRawTestrc clock data) =
        RollControl.step libm s (.rcRawTestrc clock (ascii cmd)) := by
  unfold obeyed
  by_cases harmed : s.armed = true
  · have hstep : RollControl.step libm s (.rcRawTestrc clock data) =
        (s, [.sendServoResponse "Roll control servos state not changed due to being armed"]) := by
      show RollControl.rcRawTestrc clock data s = _
      unfold RollControl.rcRawTestrc
      rw [harmed]
      rfl
    rw [hstep, if_pos harmed]
    refine ⟨rfl, fun _ => ⟨rfl, rfl⟩, fun cmd hcmd => ?_⟩
    cases hcmd
  · have hsafe : s.armed = false := by simpa using harmed
    have hstep : ∀ data, RollControl.step libm s (.rcRawTestrc clock data) =
        RollControl.servoCommand clock s (lookup RollControl.servoCommands data) :=
      fun data => RollControl.rcRawTestrc_eq_servoCommand clock data hsafe
    rw [if_neg harmed, hstep, RollControl.lookup_servoCommands]
    split_ifs
    · refine ⟨rfl, fun hnone => hnone.elim, fun cmd hcmd => ?_⟩
      cases hcmd
      exact (hstep (ascii "ENABLE")).symm
    · refine ⟨rfl, fun hnone => hnone.elim, fun cmd hcmd => ?_⟩
      cases hcmd
      exact (hstep (ascii "DISABLE")).symm
    · exact ⟨rfl, fun _ => ⟨rfl, rfl⟩, fun cmd hcmd => by cases hcmd⟩

/-- A test command that is obeyed is read off its reply. -/
lemma follows_rcRawTestrc (data : Bytes) : Follows env h w (rcRawTestrc env data) := by
  intro s
  obtain ⟨hstate, hcalls, hevents⟩ := rc_calls hr (timeless_rcRawTestrc data)
    (fun _ _ hclock => (Option.some.inj hclock).symm) s
  change (rcRawTestrc env data s).1.steering = _ at hstate
  change (rcRawTestrc env data s).2.filterMap h = _ at hcalls
  change (rcRawTestrc env data s).2.filterMap steeringEvent = _ at hevents
  -- the reply is given at the time of the clock, the replay has none
  obtain ⟨hreply, -, -⟩ := testrc_spec env.libm s.rc (env.clock s.reads) data
  obtain ⟨-, hignored, hobeyed⟩ := testrc_spec env.libm s.rc noClock data
  rw [hstate, hcalls, hevents, hreply, Machine.after_expand, Machine.emits_expand]
  cases hcase : obeyed s.rc data with
  | none =>
    obtain ⟨hsame, hnone⟩ := hignored hcase
    rw [hsame, hnone]
    exact ⟨rfl, rfl⟩
  | some cmd =>
    have hstep := step_of_rcEvents (s := s.steering) (e := .testrc (ascii cmd)) rfl env.libm
    rw [hobeyed cmd hcase]
    show _ = (Steering.step env.libm s.steering (.testrc (ascii cmd))).1 ∧
      _ = ((Steering.step env.libm s.steering (.testrc (ascii cmd))).2 ++ []).flatMap w
    rw [hstep, List.append_nil]
    exact ⟨rfl, rfl⟩

/-! ### `arm.c` -/

omit hr [Field K] [LinearOrder K] in
/-- The replies to arm commands are not those to test commands. -/
lemma steeringEvent_armResponse {s : Arm.State} {e : Arm.Event} {message : String}
    (hm : .sendArmResponse message ∈ (Arm.step s e).2) :
    steeringEvent (.respond message : Output K) = none := by
  -- all that `arm.c` can say
  have hreplies : message ∈ ["successful ARM", "ARM failed due to sensor lock", "successful SAFE",
      "successful EN_SLOCK", "Sensor Lock Overridden", "UNKNOWN COMMAND"] := by
    cases e with
    | armReceiveImu m => cases hm
    | armReceiveGps m => cases hm
    | armRawIn buffer =>
      change _ ∈ (Arm.armRawIn buffer s).2 at hm
      unfold Arm.armRawIn at hm
      cases hcommand : Arm.recognise buffer with
      | arm =>
        simp only [hcommand] at hm
        split_ifs at hm
        · have heq : message = "successful ARM" := by simpa using hm
          simp [heq]
        · have heq : message = "ARM failed due to sensor lock" := by simpa using hm
          simp [heq]
      | safe | enSlock | diSlock | unknown =>
        simp only [hcommand] at hm
        simp only [List.mem_cons, Arm.Output.sendArmResponse.injEq, reduceCtorEq, false_or,
          List.not_mem_nil, or_false] at hm
        simp [hm]
  have hne : ∀ message ∈ ["successful ARM", "ARM failed due to sensor lock", "successful SAFE",
      "successful EN_SLOCK", "Sensor Lock Overridden", "UNKNOWN COMMAND"],
      message ≠ "Roll control servos enabled" ∧ message ≠ "Roll control servos disabled" := by
    decide
  obtain ⟨henabled, hdisabled⟩ := hne message hreplies
  show (if message = "Roll control servos enabled" then _ else _) = none
  rw [if_neg henabled, if_neg hdisabled]

lemma follows_arm (event : Arm.Event) : Follows env h w (arm env event) := by
  intro s
  have hout : Follows env h w (inOrder ((Arm.step s.arm event).2.map (armOutput env))) := by
    apply traces_inOrder
    intro o ho
    cases o with
    | armSendSignal code => exact follows_armSendSignal hr (Arm.code_of_mem_step ho)
    | sendArmResponse message =>
      have hnone := steeringEvent_armResponse (K := K) ho
      apply follows_of_leaves (fun _ => rfl)
      apply calls_call
      intro o' ho'
      rw [List.mem_singleton.mp ho']
      exact ⟨hnone, hr.respond message⟩
  exact hout { s with arm := (Arm.step s.arm event).1 }

/-! ### The network -/

omit hr in
/-- `state_receive_imu` looks at the time stamp and the data only. -/
lemma stateReceiveImu_imuMessage (m : Message) (s : StateEstimation.State K) :
    StateEstimation.stateReceiveImu (imuMessage m.timestamp m.data) s =
      StateEstimation.stateReceiveImu m s := rfl

omit hr in
/-- The controller sends no replies. -/
lemma replyEvent_rcReceiveState (libm : Libm K) (s : RollControl.State K) (clock : Timestamp)
    (o : StateEstimation.Output K) :
    (RollControl.step libm s (.rcReceiveState clock o.ID o.timestamp o.data)).2.filterMap
      replyEvent = [] := by
  show (RollControl.rcReceiveState libm clock o.ID o.timestamp o.data s).2.filterMap _ = _
  by_cases hoff : s.launched = true ∧ s.enableServo = true ∧ s.timeout < fromPsasTime o.timestamp
  · rw [RollControl.rcReceiveState_timeout libm clock o.ID o.timestamp o.data hoff.1 hoff.2.1
      hoff.2.2]
    rfl
  · rw [RollControl.rcReceiveState_no_timeout libm clock o.ID o.timestamp o.data hoff]
    split_ifs
    · rfl
    · rfl

/-- The estimate is passed on at once. -/
lemma stateReceiveImu_calls (m : Message) (s : State K) :
    (stateReceiveImu env m s).1.steering =
        (Steering.step env.libm s.steering (.imu m.timestamp m.data)).1 ∧
      (stateReceiveImu env m s).2.filterMap h =
        (Steering.step env.libm s.steering (.imu m.timestamp m.data)).2.flatMap w ∧
      (stateReceiveImu env m s).2.filterMap steeringEvent = [] := by
  obtain ⟨o, ho⟩ : ∃ o, (StateEstimation.stateReceiveImu m s.state).2 = [o] := ⟨_, rfl⟩
  have hrc : rcEvents s.steering.state (.imu m.timestamp m.data) =
      [.rcReceiveState noClock o.ID o.timestamp o.data] := by
    rw [rcEvents, stateReceiveImu_imuMessage]
    change (StateEstimation.stateReceiveImu m s.state).2.map _ = _
    rw [ho]
    rfl
  have hsend : stateReceiveImu env m s =
      inOrder [stateSendMessage env o]
        { s with state := (StateEstimation.stateReceiveImu m s.state).1 } := by
    show inOrder ((StateEstimation.stateReceiveImu m s.state).2.map _) _ = _
    rw [ho]
    rfl
  obtain ⟨hstate, hcalls, hevents⟩ := rc_calls hr
    (timeless_rcReceiveState o.ID o.timestamp o.data)
    (fun _ _ hclock => (Option.some.inj hclock).symm)
    { s with state := (StateEstimation.stateReceiveImu m s.state).1 }
  rw [replyEvent_rcReceiveState] at hevents
  rw [hsend, step_of_rcEvents hrc]
  obtain ⟨hsend₁, hsend₂⟩ : (inOrder [stateSendMessage env o]
        { s with state := (StateEstimation.stateReceiveImu m s.state).1 }).1 =
          (rcReceiveState env o
            { s with state := (StateEstimation.stateReceiveImu m s.state).1 }).1 ∧
      (inOrder [stateSendMessage env o]
        { s with state := (StateEstimation.stateReceiveImu m s.state).1 }).2 =
          (rcReceiveState env o
            { s with state := (StateEstimation.stateReceiveImu m s.state).1 }).2 ++ [] ++ [] :=
    ⟨rfl, rfl⟩
  rw [hsend₁, hsend₂, List.append_nil, List.append_nil]
  exact ⟨hstate, hcalls, hevents⟩

/-- An IMU sample is logged before it is acted on. -/
lemma follows_demuxedADIS {m : Message} (hID : m.ID = messageID 'A' 'D' 'I' 'S')
    (hdata : m.payload = m.data) : Follows env h w (demuxed env m .demuxedADIS) := by
  intro s
  -- its record is the event that the rest of the calls follows
  have hrecord : steeringEvent (.log (.logWrite (env.clock s.reads) m) : Output K) =
      some (.imu m.timestamp m.data) := by
    show Steering.Event.ofRecord (recordOf m) = _
    have hID' : (recordOf m).ID = messageID 'A' 'D' 'I' 'S' := hID
    unfold Steering.Event.ofRecord
    rw [if_pos hID', ← hdata]
    rfl
  have hunread : h (.log (.logWrite (env.clock s.reads) m)) = none := by
    apply hr.message _ m rfl
    rw [hID]
    decide
  obtain ⟨hstate, hcalls, hevents⟩ := stateReceiveImu_calls hr m
    (armReceiveImu env m (logWrite env m s).1).1
  have hdemuxed : demuxed env m .demuxedADIS s =
      ((stateReceiveImu env m (armReceiveImu env m (logWrite env m s).1).1).1,
        .log (.logWrite (env.clock s.reads) m) ::
          ((stateReceiveImu env m (armReceiveImu env m (logWrite env m s).1).1).2 ++ [])) := rfl
  rw [hdemuxed, List.append_nil, List.filterMap_cons_some hrecord, List.filterMap_cons_none hunread,
    hevents, hcalls, hstate]
  exact follows_step env.libm s.steering _

/-- An umbilical report is logged behind what it does. -/
lemma follows_demuxedRNHUMB {m : Message} (hID : m.ID = messageID 'R' 'N' 'H' 'U')
    (hdata : m.payload = m.data) : Follows env h w (demuxed env m .demuxedRNHUMB) := by
  intro s
  have hrc : rcEvents s.state (.umbilical m.timestamp m.data) =
      [.rcRawUmb m.ID m.timestamp m.data] := by
    rw [hID]
    rfl
  obtain ⟨hstate, hcalls, hevents⟩ := rc_step hr
    (timeless_rcRawUmb m.ID m.timestamp m.data) (fun _ _ hclock => by cases hclock)
    (fun _ _ _ => rfl) s hrc rfl
  have hrecord : ∀ clock, steeringEvent (.log (.logWrite clock m) : Output K) =
      some (.umbilical m.timestamp m.data) := by
    intro clock
    show Steering.Event.ofRecord (recordOf m) = _
    have hID' : (recordOf m).ID = messageID 'R' 'N' 'H' 'U' := hID
    unfold Steering.Event.ofRecord
    rw [hID', if_neg (by decide), if_pos rfl, ← hdata]
    rfl
  have hunread : ∀ clock, h (.log (.logWrite clock m)) = none := by
    intro clock
    apply hr.message _ m rfl
    rw [hID]
    decide
  have hdemuxed : demuxed env m .demuxedRNHUMB s =
      ((logWrite env m (rcRawUmb env m s).1).1, (rcRawUmb env m s).2 ++
        [.log (.logWrite (env.clock (rcRawUmb env m s).1.reads) m)]) := rfl
  change (rcRawUmb env m s).2.filterMap h = _ at hcalls
  change (rcRawUmb env m s).2.filterMap steeringEvent = _ at hevents
  rw [hdemuxed, List.filterMap_append, List.filterMap_append, hevents, hcalls,
    List.filterMap_cons_some (hrecord _), List.filterMap_cons_none (hunread _), List.filterMap_nil,
    List.filterMap_nil, List.append_nil, List.nil_append]
  exact ⟨hstate, rfl⟩

/-- The messages of the other sources do not steer. -/
lemma follows_demuxed {type : Source} (hne : type ≠ .GPSCOTS) {m : Message}
    (hID : m.ID = (Ethmux.demuxType type).ID) (hdata : m.payload = m.data) :
    Follows env h w (demuxed env m (Ethmux.demuxType type).handler) := by
  by_cases hadis : type = .ADIS
  · subst hadis
    exact follows_demuxedADIS hr hID hdata
  · by_cases humb : type = .RNHUMBDET
    · subst humb
      exact follows_demuxedRNHUMB hr hID hdata
    · -- all others only log
      have hirrelevant : Irrelevant m.ID := by
        rw [hID]
        revert hne hadis humb
        cases type <;> decide
      have hlog := follows_logWrite hr hirrelevant
      cases type with
      | ADIS => exact absurd rfl hadis
      | RNHUMBDET => exact absurd rfl humb
      | GPSCOTS => exact absurd rfl hne
      | JGPS => exact traces_singleton (follows_filterReceive hr hirrelevant)
      | MPU | MPL | BMP | RNH | RNHPORT | RNHALARM | FCFH => exact traces_singleton hlog

omit hr [Field K] [LinearOrder K] in
lemma irrelevant_venusID (b : UInt8) : Irrelevant (Gps.venusID b) :=
  ⟨venusID_ne b (by decide), venusID_ne b (by decide), venusID_ne b (by decide),
    venusID_ne b (by decide)⟩

/-- Neither do the frames of the GPS. -/
lemma follows_cotsRawIn (m : Message) : Follows env h w (cotsRawIn env m) := by
  intro s
  have hout : Follows env h w (inOrder ((Gps.cotsRawIn m s.gps).2.map fun o =>
      gpsDataOut env o.message)) := by
    apply traces_inOrder
    intro o ho
    obtain ⟨f, -, rfl⟩ := List.mem_map.mp ho
    exact traces_cons (follows_arm hr _) (traces_singleton
      (follows_filterReceive hr (irrelevant_venusID ((f.mem.drop 4).headD 0))))
  exact hout { s with gps := (Gps.cotsRawIn m s.gps).1 }

lemma follows_demux (p : Packet) : Follows env h w (demux env p) := by
  intro s
  have hout : Follows env h w
      (inOrder ((Ethmux.demux env.starttime p s.ethmux).2.map (ethOutput env))) := by
    apply traces_inOrder
    intro o ho
    rcases Ethmux.mem_step env.starttime ho with
      ⟨expected, received, rfl⟩ | ⟨type, -, -, rfl⟩ | ⟨buffer, timestamp, rfl⟩ |
        ⟨buffer, timestamp, rfl⟩
    · have hirrelevant : Irrelevant (messageID 'S' 'E' 'Q' 'E') := by decide
      exact traces_singleton (follows_logWrite hr hirrelevant)
    · by_cases hcots : type = .GPSCOTS
      · subst hcots
        exact traces_singleton (follows_cotsRawIn hr _)
      · exact follows_demuxed hr hcots rfl (Ethmux.payload_delivery env.starttime type p)
    · exact traces_singleton (follows_arm hr _)
    · exact traces_singleton (follows_rcRawTestrc hr buffer)
  exact hout { s with ethmux := (Ethmux.demux env.starttime p s.ethmux).1 }

/-- **One event.** -/
theorem follows_step_event (e : Program.Event) :
    Follows env h w fun s => step env s e.toMain := by
  cases e with
  | datagram p => exact follows_demux hr p
  | logTimeout => exact follows_logTimeout hr
  | versionCallback reply => exact follows_versionCallback hr reply

/-- **The program and what steers it.** -/
theorem main_steering : (Program.front env).Projects ((Steering.machine env.libm).expand w)
    State.steering (fun s e => (step env s e.toMain).2.filterMap steeringEvent) h where
  init := rfl
  after := fun s e => (follows_step_event hr e s).1
  emits := fun s e => (follows_step_event hr e s).2

end Main

namespace Program

open Main (steeringEvent Reads)

variable (env : Main.Env K)

/-- The events that the calls of a run account for. -/
def steeringEvents (es : List Event) : List Steering.Event :=
  (mainOutputs env es).filterMap steeringEvent

/-- What the servo is told in a run. -/
def commands (es : List Event) : List (RollServoData K) :=
  (Steering.machine env.libm).outputs (steeringEvents env es)

theorem reads_mainOutputs {υ : Type} {h : Main.Output K → Option υ} {w : RollServoData K → List υ}
    (hr : Reads env h w) (es : List Event) :
    (mainOutputs env es).filterMap h = (commands env es).flatMap w := by
  have hruns := ((Main.main_steering hr).runs es).2
  have hevents : (front env).observed (fun s e =>
      (Main.step env s e.toMain).2.filterMap steeringEvent) es = steeringEvents env es := by
    rw [steeringEvents, mainOutputs, ← outputs_front]
    exact Machine.observed_calls steeringEvent es
  rw [hevents, outputs_front] at hruns
  rw [mainOutputs, hruns]
  exact Machine.emits_expand _ _ _ _

end Program

end FlightComputer
