import FlightComputer.RollControl
import Mathlib.Data.List.DropRight
import Mathlib.Tactic.Linarith

/-!
# The servo interlock and the post-launch cut-off

`Effect` is what a single call into `rollcontrol.c` can do to the servo: nothing, switch it
on, steer it while it is on, or cut it off with a centred, disabled ROLL message.
`step_effect` checks every handler against it, and says which calls switch on and which cut
off. The interlock is a consequence of `Effect` alone.

The deadline after launch is a function of the umbilical reports: `timeout_invariant` ties
it to the first report of the current unbroken run of disconnect reports.
-/

namespace FlightComputer
namespace RollControl

variable {K : Type} [Field K] [LinearOrder K]

/-! ## Reading calls and events -/

/-- The ROLL messages among the calls. -/
def rolls (out : List (Output K)) : List (ROLLMessage K) :=
  out.filterMap fun
    | .rcSendServo m => some m
    | .sendServoResponse _ => none

omit [Field K] [LinearOrder K] in
@[simp] lemma rolls_nil : rolls ([] : List (Output K)) = [] := rfl

omit [Field K] [LinearOrder K] in
@[simp] lemma rolls_append (out out' : List (Output K)) :
    rolls (out ++ out') = rolls out ++ rolls out' :=
  List.filterMap_append

/-! ## Message headers -/

/-- The reading of the clock that a call may stamp its messages with. -/
def Event.clock : Event K → Option Timestamp
  | .rcReceiveArm clock _ => some clock
  | .rcRawTestrc clock _ => some clock
  | .rcRawUmb _ _ _ => none
  | .rcReceiveState clock _ _ _ => some clock

/-- What every ROLL message says of itself. -/
structure IsRoll (clock : Timestamp) (m : ROLLMessage K) : Prop where
  ID : m.ID = messageID 'R' 'O' 'L' 'L'
  timestamp : m.timestamp = clock
  dataLength : m.dataLength = .ofNat sizeofRollServoData

lemma isRoll_of_mem_setCanardAngle {clock : Timestamp} {degrees : K} {s : State K}
    {m : ROLLMessage K} (h : .rcSendServo m ∈ setCanardAngle clock degrees s) :
    IsRoll clock m := by
  unfold setCanardAngle at h
  cases List.mem_singleton.mp h
  exact ⟨rfl, rfl, rfl⟩

/-- A ROLL message is stamped with the reading of the call that sends it. -/
theorem isRoll_of_mem_step {libm : Libm K} {s : State K} {e : Event K} {m : ROLLMessage K}
    (h : .rcSendServo m ∈ (step libm s e).2) : ∃ clock ∈ e.clock, IsRoll clock m := by
  cases e with
  | rcReceiveArm clock signal =>
    change _ ∈ (rcReceiveArm clock signal s).2 at h
    unfold rcReceiveArm at h
    refine ⟨clock, rfl, ?_⟩
    split_ifs at h
    · cases h
    · exact isRoll_of_mem_setCanardAngle h
    · cases h
  | rcRawTestrc clock data =>
    change _ ∈ (rcRawTestrc clock data s).2 at h
    unfold rcRawTestrc at h
    refine ⟨clock, rfl, ?_⟩
    split_ifs at h
    · simp at h
    · rcases List.mem_append.mp h with h | h
      · exact isRoll_of_mem_setCanardAngle h
      · simp at h
    · simp at h
    · simp at h
  | rcRawUmb ID timestamp data => cases h
  | rcReceiveState clock ID timestamp state =>
    change _ ∈ (rcReceiveState libm clock ID timestamp state s).2 at h
    unfold rcReceiveState at h
    refine ⟨clock, rfl, ?_⟩
    have htimeout : .rcSendServo m ∈ (checkTimeout clock timestamp s).2 → IsRoll clock m := by
      intro h
      unfold checkTimeout at h
      split_ifs at h
      · cases h
      · exact isRoll_of_mem_setCanardAngle h
      · cases h
    dsimp only at h
    split_ifs at h
    · exact htimeout h
    · exact htimeout h
    · rcases List.mem_append.mp h with h | h
      · exact htimeout h
      · exact isRoll_of_mem_setCanardAngle h

/-! ## Switching on and off -/

/-- The calls that switch the servo on: an ARM signal, or ENABLE while not armed. -/
def Enables (s : State K) : Event K → Prop
  | .rcReceiveArm _ signal => signal = "ARM"
  | .rcRawTestrc _ data => s.armed = false ∧ compareBufferToCmd data "ENABLE" = true
  | _ => False

/-- The calls that cut the servo off: a SAFE signal, DISABLE while not armed, or a state
message after the deadline. -/
def CutsOff (s : State K) : Event K → Prop
  | .rcReceiveArm _ signal => signal = "SAFE"
  | .rcRawTestrc _ data => s.armed = false ∧ compareBufferToCmd data "ENABLE" = false ∧
      compareBufferToCmd data "DISABLE" = true
  | .rcRawUmb _ _ _ => False
  | .rcReceiveState _ _ timestamp _ =>
      s.launched = true ∧ s.enableServo = true ∧ s.timeout < fromPsasTime timestamp

/-- A ROLL message that centres the fins and disables the servo. -/
def IsCutOff (m : ROLLMessage K) : Prop := m.data.disable = 1 ∧ m.data.angle = 0

/-! ## What one call does to the servo -/

/-- What one call can do to `enableServo`, and the ROLL messages it sends; `on` and `off` are
the conditions under which it may switch on and cut off. -/
inductive Effect (on off : Prop) : Bool → Bool → List (ROLLMessage K) → Prop where
  | idle (b : Bool) : Effect on off b b []
  | enable (b : Bool) (h : on) : Effect on off b true []
  | steer (m : ROLLMessage K) (h : m.data.disable = 0) : Effect on off true true [m]
  | cutOff (b : Bool) (m : ROLLMessage K) (h : off) (hm : IsCutOff m) : Effect on off b false [m]

lemma rolls_setCanardAngle (clock : Timestamp) (degrees : K) (s : State K) :
    ∃ m, rolls (setCanardAngle clock degrees s) = [m] ∧
      m.data.disable = (!s.enableServo).toUInt8 ∧
      m.data.angle = clamp degrees MIN_CANARD_ANGLE MAX_CANARD_ANGLE :=
  ⟨_, rfl, rfl, rfl⟩

lemma pidController_enableServo (state : StateData K) (s : State K) :
    (pidController state s).2.enableServo = s.enableServo := rfl

/-- A state message past the deadline cuts the servo off. -/
lemma rcReceiveState_timeout (libm : Libm K) (clock : Timestamp) (ID : MessageID)
    (timestamp : Timestamp) (state : StateData K) {s : State K} (hl : s.launched = true)
    (he : s.enableServo = true) (ht : s.timeout < fromPsasTime timestamp) :
    rcReceiveState libm clock ID timestamp state s =
      (setServoEnable false s, setCanardAngle clock 0 (setServoEnable false s)) := by
  unfold rcReceiveState checkTimeout
  simp [hl, he, ht, setServoEnable]

/-- Any other state message runs the controller if the servo is on, and is ignored if not. -/
lemma rcReceiveState_no_timeout (libm : Libm K) (clock : Timestamp) (ID : MessageID)
    (timestamp : Timestamp) (state : StateData K) {s : State K}
    (h : ¬(s.launched = true ∧ s.enableServo = true ∧ s.timeout < fromPsasTime timestamp)) :
    rcReceiveState libm clock ID timestamp state s =
      if s.enableServo = true ∧ ID = messageID 'V' 'S' 'T' 'E' then
        ((pidController state s).2, setCanardAngle clock
          (estimateAlpha libm (pidController state s).1 state) (pidController state s).2)
      else (s, []) := by
  have hcheck : checkTimeout clock timestamp s = (s, []) := by
    unfold checkTimeout
    by_cases hoff : (!s.launched || !s.enableServo) = true
    · rw [if_pos hoff]
    · rw [if_neg hoff, if_neg]
      intro ht
      simp only [Bool.or_eq_true, Bool.not_eq_true', not_or, Bool.not_eq_false] at hoff
      exact h ⟨hoff.1, hoff.2, ht⟩
  unfold rcReceiveState
  rw [hcheck]
  by_cases he : s.enableServo = true
  · by_cases hID : ID = messageID 'V' 'S' 'T' 'E'
    · simp [he, hID]
    · simp [he, hID]
  · simp [he]

omit [Field K] [LinearOrder K] in
/-- An RNHU report sets the deadline on a disconnect edge, and records the umbilical. -/
lemma rcRawUmb_report {ID : MessageID} (hID : ID = messageID 'R' 'N' 'H' 'U')
    (timestamp : Timestamp) (data : Bytes) (s : State K) :
    rcRawUmb ID timestamp data s =
      { s with
        timeout := if s.launched = false ∧ (RNHUmbdet.ofMem data).detect = 0 then
            (fromPsasTime timestamp + TIMEOUT) % 2 ^ 64
          else s.timeout
        launched := (RNHUmbdet.ofMem data).detect = 0 } := by
  unfold rcRawUmb
  rw [if_neg (not_not_intro hID)]
  by_cases hedge : s.launched = false ∧ (RNHUmbdet.ofMem data).detect = 0
  · simp [hedge.1, hedge.2]
  · rw [if_neg hedge]
    simp only [Bool.and_eq_true, Bool.not_eq_true', decide_eq_true_eq]
    rw [if_neg hedge]

omit [Field K] [LinearOrder K] in
lemma rcRawUmb_other {ID : MessageID} (hID : ID ≠ messageID 'R' 'N' 'H' 'U')
    (timestamp : Timestamp) (data : Bytes) (s : State K) :
    rcRawUmb ID timestamp data s = s := by
  unfold rcRawUmb
  rw [if_pos hID]

omit [Field K] [LinearOrder K] in
lemma rcRawUmb_enableServo (ID : MessageID) (timestamp : Timestamp) (data : Bytes)
    (s : State K) : (rcRawUmb ID timestamp data s).enableServo = s.enableServo := by
  by_cases hID : ID = messageID 'R' 'N' 'H' 'U'
  · rw [rcRawUmb_report hID]
  · rw [rcRawUmb_other hID]

variable [IsStrictOrderedRing K]

/-- The centre is not clamped. -/
lemma clamp_zero : clamp (0 : K) MIN_CANARD_ANGLE MAX_CANARD_ANGLE = 0 := by
  unfold MIN_CANARD_ANGLE MAX_CANARD_ANGLE
  exact clamp_eq (by norm_num) (by norm_num)

/-- Centring with the servo off sends one cut-off message. -/
lemma rolls_setCanardAngle_zero (clock : Timestamp) {s : State K} (h : s.enableServo = false) :
    ∃ m, rolls (setCanardAngle clock (0 : K) s) = [m] ∧ IsCutOff m := by
  obtain ⟨m, hrolls, hdisable, hangle⟩ := rolls_setCanardAngle clock (0 : K) s
  refine ⟨m, hrolls, ?_, ?_⟩
  · rw [hdisable, h]; rfl
  · rw [hangle, clamp_zero]

/-- Every call has one of the four effects. -/
theorem step_effect (libm : Libm K) (s : State K) (e : Event K) :
    Effect (Enables s e) (CutsOff s e) s.enableServo (step libm s e).1.enableServo
      (rolls (step libm s e).2) := by
  cases e with
  | rcReceiveArm clock signal =>
    show Effect _ _ _ (rcReceiveArm clock signal s).1.enableServo
      (rolls (rcReceiveArm clock signal s).2)
    unfold rcReceiveArm
    split_ifs with harm hsafe
    · exact .enable _ harm
    · obtain ⟨m, hm, hcut⟩ := rolls_setCanardAngle_zero clock (s := setArmed false s) rfl
      rw [hm]
      exact .cutOff _ m hsafe hcut
    · exact .idle _
  | rcRawTestrc clock data =>
    show Effect _ _ _ (rcRawTestrc clock data s).1.enableServo
      (rolls (rcRawTestrc clock data s).2)
    unfold rcRawTestrc
    split_ifs with harmed hen hdis
    · exact .enable _ ⟨by simpa using harmed, hen⟩
    · obtain ⟨m, hm, hcut⟩ := rolls_setCanardAngle_zero clock (s := setServoEnable false s) rfl
      rw [rolls_append, hm]
      exact .cutOff _ m ⟨by simpa using harmed, by simpa using hen, hdis⟩ hcut
    · exact .idle _
    · exact .idle _
  | rcRawUmb ID timestamp data =>
    show Effect _ _ _ (rcRawUmb ID timestamp data s).enableServo []
    rw [rcRawUmb_enableServo]
    exact .idle _
  | rcReceiveState clock ID timestamp state =>
    show Effect _ _ _ (rcReceiveState libm clock ID timestamp state s).1.enableServo
      (rolls (rcReceiveState libm clock ID timestamp state s).2)
    by_cases hoff : s.launched = true ∧ s.enableServo = true ∧ s.timeout < fromPsasTime timestamp
    · obtain ⟨m, hm, hcut⟩ := rolls_setCanardAngle_zero clock (s := setServoEnable false s) rfl
      rw [rcReceiveState_timeout libm clock ID timestamp state hoff.1 hoff.2.1 hoff.2.2, hm]
      exact .cutOff _ m hoff hcut
    · rw [rcReceiveState_no_timeout libm clock ID timestamp state hoff]
      split_ifs with hrun
      · obtain ⟨m, hm, hdisable, -⟩ := rolls_setCanardAngle clock
          (estimateAlpha libm (pidController state s).1 state) (pidController state s).2
        rw [hm, pidController_enableServo, hrun.1]
        rw [pidController_enableServo, hrun.1] at hdisable
        exact .steer m hdisable
      · exact .idle _

/-! ## The interlock -/

/-- The last ROLL message sent leaves the servo enabled only if the flag is set. -/
lemma enableServo_of_last_roll (libm : Libm K) (es : List (Event K)) :
    ∀ m, (rolls ((machine libm).outputs es)).getLast? = some m → m.data.disable = 0 →
      ((machine libm).run es).enableServo = true := by
  refine (machine libm).run_induction (P := fun _ s out =>
    ∀ m, (rolls out).getLast? = some m → m.data.disable = 0 → s.enableServo = true) ?_ ?_ es
  · intro m hm
    cases hm
  · intro es e ih m hm hdisable
    have heffect := step_effect libm ((machine libm).run es) e
    have ih' := ih m
    rw [rolls_append] at hm
    show (step libm ((machine libm).run es) e).1.enableServo = true
    change (_ ++ rolls (step libm ((machine libm).run es) e).2).getLast? = some m at hm
    generalize (step libm ((machine libm).run es) e).1.enableServo = after at heffect ⊢
    generalize ((machine libm).run es).enableServo = before at heffect ih'
    generalize rolls (step libm ((machine libm).run es) e).2 = sent at heffect hm
    cases heffect with
    | idle => exact ih' (by simpa using hm) hdisable
    | enable => rfl
    | steer => rfl
    | cutOff _ m' _ hcut =>
      -- the last message is then the cut-off message, whose `disable` is 1
      have hlast : m' = m := by simpa using hm
      rw [← hlast, hcut.1] at hdisable
      exact absurd hdisable (by decide)

/-- While the servo is off, a call that does not switch it on leaves it off, and sends no
message that enables it. -/
lemma step_disabled (libm : Libm K) {s : State K} {e : Event K} (hs : s.enableServo = false)
    (hne : ¬Enables s e) :
    (step libm s e).1.enableServo = false ∧
      ∀ m ∈ rolls (step libm s e).2, m.data.disable ≠ 0 := by
  have heffect := step_effect libm s e
  rw [hs] at heffect
  generalize (step libm s e).1.enableServo = after at heffect
  generalize rolls (step libm s e).2 = sent at heffect
  cases heffect with
  | idle => exact ⟨rfl, by simp⟩
  | enable _ hen => exact absurd hen hne
  | cutOff _ m _ hcut =>
    refine ⟨rfl, fun m' hm' => ?_⟩
    rw [List.mem_singleton.mp hm', hcut.1]
    decide

/-- While no call switches the servo on, no ROLL message enables it. -/
lemma disabled_until_enabled (libm : Libm K) {s : State K} {later : List (Event K)}
    (hs : s.enableServo = false)
    (h : (machine libm).Along (fun s e => ¬Enables s e) s later) :
    ∀ m ∈ rolls ((machine libm).emits s later), m.data.disable ≠ 0 := by
  induction later generalizing s with
  | nil => simp
  | cons e later ih =>
    obtain ⟨hoff, hsent⟩ := step_disabled libm hs h.1
    intro m hm
    rw [Machine.emits_cons, rolls_append] at hm
    rcases List.mem_append.mp hm with hm | hm
    · exact hsent m hm
    · exact ih hoff h.2 m hm

/-- **Servo interlock.** In every reachable state the servo is enabled if the last ROLL
message sent says so. A call that switches the servo off is one of the three cut-offs, it
sends exactly one ROLL message, centred and disabled, and no ROLL message enables the servo
again before some call switches it on. -/
theorem servo_interlock (libm : Libm K) (es : List (Event K)) :
    (∀ m, (rolls ((machine libm).outputs es)).getLast? = some m → m.data.disable = 0 →
      ((machine libm).run es).enableServo = true) ∧
    ∀ e, ((machine libm).run es).enableServo = true →
      ((machine libm).run (es ++ [e])).enableServo = false →
      CutsOff ((machine libm).run es) e ∧
      (∃ m, rolls ((machine libm).step ((machine libm).run es) e).2 = [m] ∧
        m.data.disable = 1 ∧ m.data.angle = 0) ∧
      ∀ later, (machine libm).Along (fun s f => ¬Enables s f)
          ((machine libm).run (es ++ [e])) later →
        ∀ m ∈ rolls ((machine libm).emits ((machine libm).run (es ++ [e])) later),
          m.data.disable ≠ 0 := by
  refine ⟨enableServo_of_last_roll libm es, fun e hon hoff => ?_⟩
  have heffect := step_effect libm ((machine libm).run es) e
  have hafter : (step libm ((machine libm).run es) e).1.enableServo = false := by
    rw [Machine.run_snoc] at hoff
    exact hoff
  rw [hon, hafter] at heffect
  change _ ∧ (∃ m, rolls (step libm ((machine libm).run es) e).2 = [m] ∧ _) ∧ _
  generalize rolls (step libm ((machine libm).run es) e).2 = sent at heffect
  cases heffect with
  | cutOff _ m hcutsOff hcut =>
    exact ⟨hcutsOff, ⟨m, rfl, hcut⟩, fun later h => disabled_until_enabled libm hoff h⟩

/-- Armed, then made safe: one centred, disabled ROLL message. -/
theorem servo_interlock_safe :
    ∃ m, rolls ((machine (K := ℚ) ⟨id, id, 3⟩).step
        ((machine ⟨id, id, 3⟩).run [.rcReceiveArm (Vector.replicate 6 0) "ARM"])
        (.rcReceiveArm (Vector.replicate 6 1) "SAFE")).2 = [m] ∧
      m.data.disable = 1 ∧ m.data.angle = 0 :=
  ((servo_interlock (K := ℚ) ⟨id, id, 3⟩ [.rcReceiveArm (Vector.replicate 6 0) "ARM"]).2
    (.rcReceiveArm (Vector.replicate 6 1) "SAFE") rfl rfl).2.1

/-! ## The cut-off after launch -/

/-- The umbilical reports among the calls: their time stamps, and what they detect. -/
def umbReports (es : List (Event K)) : List (Timestamp × UInt8) :=
  es.filterMap fun
    | .rcRawUmb ID timestamp data =>
      if ID = messageID 'R' 'N' 'H' 'U' then some (timestamp, (RNHUmbdet.ofMem data).detect)
      else none
    | _ => none

/-- The current unbroken run of reports that the umbilical is disconnected. -/
def disconnectReports (es : List (Event K)) : List (Timestamp × UInt8) :=
  (umbReports es).rtakeWhile (·.2 = 0)

/-- A report that the umbilical is connected. -/
def Reconnects : Event K → Prop
  | .rcRawUmb ID _ data => ID = messageID 'R' 'N' 'H' 'U' ∧ (RNHUmbdet.ofMem data).detect ≠ 0
  | _ => False

omit [Field K] [LinearOrder K] [IsStrictOrderedRing K] in
lemma umbReports_snoc (es : List (Event K)) (e : Event K) :
    umbReports (es ++ [e]) = umbReports es ++ umbReports [e] :=
  List.filterMap_append

/-- What the umbilical reports say about `launched` and `timeout`. -/
def TimeoutInv (reports : List (Timestamp × UInt8)) (s : State K) : Prop :=
  (s.launched = true ↔ reports ≠ []) ∧
    ∀ first ∈ reports.head?, s.timeout = fromPsasTime first.1 + TIMEOUT

/-- The deadline does not wrap around. -/
lemma deadline_lt (timestamp : Timestamp) :
    (fromPsasTime timestamp + TIMEOUT) % 2 ^ 64 = fromPsasTime timestamp + TIMEOUT := by
  have h := fromPsasTime_lt timestamp
  unfold TIMEOUT
  omega

omit [IsStrictOrderedRing K] in
/-- Only an umbilical report writes `launched` and `timeout`. -/
lemma step_deadline (libm : Libm K) (s : State K) (e : Event K)
    (h : umbReports [e] = []) :
    (step libm s e).1.launched = s.launched ∧ (step libm s e).1.timeout = s.timeout := by
  cases e with
  | rcReceiveArm clock signal =>
    show (rcReceiveArm clock signal s).1.launched = _ ∧ (rcReceiveArm clock signal s).1.timeout = _
    unfold rcReceiveArm
    split_ifs <;> exact ⟨rfl, rfl⟩
  | rcRawTestrc clock data =>
    show (rcRawTestrc clock data s).1.launched = _ ∧ (rcRawTestrc clock data s).1.timeout = _
    unfold rcRawTestrc
    split_ifs <;> exact ⟨rfl, rfl⟩
  | rcRawUmb ID timestamp data =>
    have hID : ID ≠ messageID 'R' 'N' 'H' 'U' := by
      rintro rfl
      simp [umbReports] at h
    show (rcRawUmb ID timestamp data s).launched = _ ∧ (rcRawUmb ID timestamp data s).timeout = _
    rw [rcRawUmb_other hID]
    exact ⟨rfl, rfl⟩
  | rcReceiveState clock ID timestamp state =>
    show (rcReceiveState libm clock ID timestamp state s).1.launched = _ ∧
      (rcReceiveState libm clock ID timestamp state s).1.timeout = _
    by_cases hoff : s.launched = true ∧ s.enableServo = true ∧ s.timeout < fromPsasTime timestamp
    · rw [rcReceiveState_timeout libm clock ID timestamp state hoff.1 hoff.2.1 hoff.2.2]
      exact ⟨rfl, rfl⟩
    · rw [rcReceiveState_no_timeout libm clock ID timestamp state hoff]
      split_ifs <;> exact ⟨rfl, rfl⟩

omit [Field K] [LinearOrder K] [IsStrictOrderedRing K] in
/-- A report extends the invariant: a disconnect edge starts a new deadline, a repeated
disconnect keeps it, a connect ends it. -/
lemma timeoutInv_report {reports : List (Timestamp × UInt8)} {s : State K}
    (h : TimeoutInv (reports.rtakeWhile (·.2 = 0)) s) (timestamp : Timestamp) (data : Bytes) :
    TimeoutInv ((reports ++ [(timestamp, (RNHUmbdet.ofMem data).detect)]).rtakeWhile (·.2 = 0))
      (rcRawUmb (messageID 'R' 'N' 'H' 'U') timestamp data s) := by
  rw [rcRawUmb_report rfl, List.rtakeWhile_concat]
  by_cases hdet : (RNHUmbdet.ofMem data).detect = 0
  · rw [if_pos (by simpa using hdet)]
    refine ⟨by simp [hdet], fun first hfirst => ?_⟩
    cases hrun : reports.rtakeWhile (·.2 = 0) with
    | nil =>
      -- the edge: `first` is this very report
      have hl : s.launched = false := by
        rw [← Bool.not_eq_true, h.1, hrun]
        simp
      rw [hrun] at hfirst
      cases hfirst
      simp only [hl, hdet, and_self, if_true, deadline_lt]
    | cons r rs =>
      have hl : s.launched = true := h.1.mpr (by rw [hrun]; simp)
      rw [hrun] at hfirst
      have hr : first ∈ (reports.rtakeWhile (·.2 = 0)).head? := by rw [hrun]; exact hfirst
      simpa [hl] using h.2 first hr
  · rw [if_neg (by simpa using hdet)]
    exact ⟨by simp [hdet], by simp⟩

omit [IsStrictOrderedRing K] in
/-- In every reachable state, `launched` says whether the last umbilical report was a
disconnect, and the deadline is two minutes after the first report of the current run of
disconnects. -/
theorem timeout_invariant (libm : Libm K) (es : List (Event K)) :
    TimeoutInv (disconnectReports es) ((machine libm).run es) := by
  refine (machine libm).run_invariant (P := fun es s => TimeoutInv (disconnectReports es) s)
    ?_ ?_ es
  · exact ⟨by simp [disconnectReports, umbReports, machine, rollcontrolInit, setArmed,
      setServoEnable], by simp [disconnectReports, umbReports]⟩
  · intro es e ih
    by_cases hreport : umbReports [e] = []
    · have hsame := step_deadline libm ((machine libm).run es) e hreport
      unfold disconnectReports TimeoutInv at ih ⊢
      rw [umbReports_snoc, hreport, List.append_nil]
      show ((step libm _ e).1.launched = true ↔ _) ∧ ∀ first ∈ _, (step libm _ e).1.timeout = _
      rw [hsame.1, hsame.2]
      exact ih
    · cases e with
      | rcRawUmb ID timestamp data =>
        have hID : ID = messageID 'R' 'N' 'H' 'U' := by
          by_contra hne
          exact hreport (by simp [umbReports, hne])
        subst hID
        have hone : umbReports [Event.rcRawUmb (K := K) (messageID 'R' 'N' 'H' 'U') timestamp data]
            = [(timestamp, (RNHUmbdet.ofMem data).detect)] := by simp [umbReports]
        unfold disconnectReports at ih ⊢
        rw [umbReports_snoc, hone]
        exact timeoutInv_report ih timestamp data
      | _ => exact absurd rfl hreport

omit [Field K] [LinearOrder K] [IsStrictOrderedRing K] in
/-- A last report that says disconnected belongs to the current run of disconnects. -/
lemma disconnectReports_ne_nil {es : List (Event K)} {last : Timestamp × UInt8}
    (hlast : (umbReports es).getLast? = some last) (hdet : last.2 = 0) :
    disconnectReports es ≠ [] := by
  have hne : umbReports es ≠ [] := by
    intro hnil
    simp [hnil] at hlast
  rw [List.getLast?_eq_some_getLast hne, Option.some.injEq] at hlast
  unfold disconnectReports
  rw [Ne, List.rtakeWhile_eq_nil_iff]
  intro h
  exact h hne (by simpa [hlast] using hdet)

omit [Field K] [LinearOrder K] [IsStrictOrderedRing K] in
/-- Only a connect report ends the current run of disconnects. -/
lemma head?_disconnectReports_snoc {es : List (Event K)} {first : Timestamp × UInt8}
    (hfirst : (disconnectReports es).head? = some first) {e : Event K} (he : ¬Reconnects e) :
    (disconnectReports (es ++ [e])).head? = some first := by
  unfold disconnectReports at hfirst ⊢
  rw [umbReports_snoc]
  cases e with
  | rcRawUmb ID timestamp data =>
    by_cases hID : ID = messageID 'R' 'N' 'H' 'U'
    · have hdet : (RNHUmbdet.ofMem data).detect = 0 := by
        by_contra hne
        exact he ⟨hID, hne⟩
      have hone : umbReports [Event.rcRawUmb (K := K) ID timestamp data]
          = [(timestamp, (RNHUmbdet.ofMem data).detect)] := by simp [umbReports, hID]
      rw [hone, List.rtakeWhile_concat, if_pos (by simpa using hdet), List.head?_append, hfirst]
      rfl
    · simpa [umbReports, hID] using hfirst
  | _ => simpa [umbReports] using hfirst

/-- **Post-launch cut-off.** While the umbilical is reported disconnected, the deadline is two
minutes after the first report of the current run of disconnects, and no call but a connect
report moves it. A state message that leaves the servo enabled is not past the deadline, and
one past the deadline that finds it enabled sends one centred, disabled ROLL message. -/
theorem post_launch_cutoff (libm : Libm K) (es : List (Event K)) (last : Timestamp × UInt8)
    (hlast : (umbReports es).getLast? = some last) (hdet : last.2 = 0) :
    ∃ first, (disconnectReports es).head? = some first ∧
      ((machine libm).run es).timeout = fromPsasTime first.1 + 120 * 10 ^ 9 ∧
      (∀ e, ¬Reconnects e → (disconnectReports (es ++ [e])).head? = some first ∧
        ((machine libm).run (es ++ [e])).timeout = ((machine libm).run es).timeout) ∧
      (∀ clock ID timestamp state, ∀ m ∈ rolls ((machine libm).step ((machine libm).run es)
          (.rcReceiveState clock ID timestamp state)).2, m.data.disable = 0 →
        fromPsasTime timestamp ≤ fromPsasTime first.1 + 120 * 10 ^ 9) ∧
      (∀ clock ID timestamp state, ((machine libm).run es).enableServo = true →
        fromPsasTime first.1 + 120 * 10 ^ 9 < fromPsasTime timestamp →
        ∃ m, rolls ((machine libm).step ((machine libm).run es)
            (.rcReceiveState clock ID timestamp state)).2 = [m] ∧
          m.data.disable = 1 ∧ m.data.angle = 0) := by
  have hne := disconnectReports_ne_nil hlast hdet
  obtain ⟨first, rest, hrun⟩ := List.exists_cons_of_ne_nil hne
  have hfirst : (disconnectReports es).head? = some first := by rw [hrun, List.head?_cons]
  obtain ⟨hlaunched, hdeadline⟩ := timeout_invariant libm es
  have hl : ((machine libm).run es).launched = true := hlaunched.mpr hne
  have ht : ((machine libm).run es).timeout = fromPsasTime first.1 + 120 * 10 ^ 9 :=
    hdeadline first hfirst
  refine ⟨first, hfirst, ht, ?_, ?_, ?_⟩
  · intro e he
    have hfirst' := head?_disconnectReports_snoc hfirst he
    refine ⟨hfirst', ?_⟩
    rw [ht, (timeout_invariant libm (es ++ [e])).2 first hfirst']
    rfl
  · intro clock ID timestamp state m hm hdisable
    by_contra hlate
    have hpast : ((machine libm).run es).timeout < fromPsasTime timestamp := by
      rw [ht]
      omega
    change m ∈ rolls (rcReceiveState libm clock ID timestamp state _).2 at hm
    by_cases hon : ((machine libm).run es).enableServo = true
    · obtain ⟨m', hm', hcut⟩ := rolls_setCanardAngle_zero clock
        (s := setServoEnable false ((machine libm).run es)) rfl
      rw [rcReceiveState_timeout libm clock ID timestamp state hl hon hpast, hm',
        List.mem_singleton] at hm
      rw [hm, hcut.1] at hdisable
      exact absurd hdisable (by decide)
    · rw [rcReceiveState_no_timeout libm clock ID timestamp state (fun h => hon h.2.1),
        if_neg (fun h => hon h.1)] at hm
      cases hm
  · intro clock ID timestamp state hon hpast
    rw [← ht] at hpast
    show ∃ m, rolls (rcReceiveState libm clock ID timestamp state _).2 = [m] ∧ _
    rw [rcReceiveState_timeout libm clock ID timestamp state hl hon hpast]
    exact rolls_setCanardAngle_zero clock rfl

/-- The umbilical is connected, the rocket armed, and the umbilical disconnected for good. -/
def launchRun : List (Event ℚ) :=
  [.rcRawUmb (messageID 'R' 'N' 'H' 'U') (toPsasTime ⟨0, 0⟩ ⟨3, 0⟩) [1],
    .rcReceiveArm (toPsasTime ⟨0, 0⟩ ⟨4, 0⟩) "ARM",
    .rcRawUmb (messageID 'R' 'N' 'H' 'U') (toPsasTime ⟨0, 0⟩ ⟨5, 0⟩) [0],
    .rcRawUmb (messageID 'R' 'N' 'H' 'U') (toPsasTime ⟨0, 0⟩ ⟨6, 0⟩) [0]]

/-- A state message of a rocket at rest. -/
def restMessage (seconds : ℤ) : Event ℚ :=
  .rcReceiveState (toPsasTime ⟨0, 0⟩ ⟨seconds, 0⟩) (messageID 'V' 'S' 'T' 'E')
    (toPsasTime ⟨0, 0⟩ ⟨seconds, 0⟩) ⟨0, 0, 0, 0, 0, 0⟩

def restLibm : Libm ℚ := ⟨fun _ => 1, id, 3⟩

/-- The first disconnect counts, at five seconds. After 125 seconds the servo is still enabled, and
after 126 it is cut off. -/
theorem post_launch_cutoff_launch :
    ((machine restLibm).run launchRun).timeout = 125 * 10 ^ 9 ∧
      ((machine restLibm).run (launchRun ++ [restMessage 125])).timeout = 125 * 10 ^ 9 ∧
      (rolls ((machine restLibm).step ((machine restLibm).run launchRun)
        (restMessage 125)).2).map (fun m => m.data.disable) = [0] ∧
      ∃ m, rolls ((machine restLibm).step ((machine restLibm).run launchRun)
          (restMessage 126)).2 = [m] ∧ m.data.disable = 1 ∧ m.data.angle = 0 := by
  obtain ⟨first, hfirst, ht, hstays, -, hcut⟩ := post_launch_cutoff restLibm launchRun
    (toPsasTime ⟨0, 0⟩ ⟨6, 0⟩, 0) (by decide) (by decide)
  have hhead : (disconnectReports launchRun).head? = some (toPsasTime ⟨0, 0⟩ ⟨5, 0⟩, 0) := by
    decide
  rw [hhead] at hfirst
  cases hfirst
  have hdeadline : fromPsasTime (toPsasTime ⟨0, 0⟩ ⟨5, 0⟩) + 120 * 10 ^ 9 = 125 * 10 ^ 9 := by
    decide
  rw [hdeadline] at ht hcut
  have hmoved := (hstays (restMessage 125) id).2
  rw [ht] at hmoved
  exact ⟨ht, hmoved, by decide +kernel, hcut _ _ _ _ (by decide +kernel) (by decide)⟩

end RollControl
end FlightComputer
