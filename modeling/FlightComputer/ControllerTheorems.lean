import FlightComputer.ServoTheorems
import FlightComputer.TrajectoryTheorems

/-!
# The controller over a flight

From the IMU samples to the angles of the fins, over whole runs. The PID controller is a sum of
the error and of an integrator that is clamped (`pidController_eq`), and `estimate_alpha` is odd
and monotone. So two flights whose samples differ in the roll rate alone can be compared, sample
by sample: a `Comparison` of the readings is one of the angles (`lockStep_samples`).

The integrator is bounded, so a roll of 20 degrees a second or more is never fed, whatever came
before. And up to the launch the estimate does not move, and the fins are in the centre. All of
this is said of exact arithmetic.
-/

namespace FlightComputer

variable {K : Type} [Field K] [LinearOrder K]

section

variable [IsStrictOrderedRing K]

/-! ## The PID controller -/

/-- Between bounds of one size, clamping treats both directions alike. -/
lemma oddMonotone_clamp {lo hi : K} (hsize : lo = -hi) (h : lo ≤ hi) :
    OddMonotone fun value : K => clamp value lo hi := by
  refine ⟨clamp_monotone h, fun value => ?_⟩
  subst hsize
  by_cases hlo : value < -hi
  · have hneg : clamp (-value) (-hi) hi = hi := by
      rw [clamp, if_neg (by linarith), if_pos (by linarith)]
    rw [hneg, clamp, if_pos hlo, neg_neg]
  · by_cases hhi : hi < value
    · have hneg : clamp (-value) (-hi) hi = -hi := if_pos (by linarith)
      rw [hneg, clamp, if_neg hlo, if_pos hhi]
    · rw [clamp_eq (by linarith) (by linarith), clamp_eq (by linarith) (by linarith)]

namespace RollControl

/-- The bounds of the integrator. -/
lemma integrator_bounds :
    (integrator_min : K) = -integrator_max ∧ (integrator_max : K) = 10000 := by
  unfold integrator_min integrator_max Ki
  refine ⟨?_, ?_⟩
  · rw [neg_div]
  · norm_num

lemma integrator_range : (integrator_min : K) ≤ integrator_max := by
  rw [integrator_bounds.1, integrator_bounds.2]
  norm_num

/-- **The PID controller.** The derivative does not count, and the integrator is clamped. -/
theorem pidController_eq (state : StateData K) (s : State K) :
    pidController state s =
      (Kp * -state.rollRate + Ki * s.integrator,
        { s with
          lastError := -state.rollRate
          integrator :=
            clamp (s.integrator + -state.rollRate) integrator_min integrator_max }) := by
  have herror : pidTarget - state.rollRate = -state.rollRate := by rw [pidTarget, zero_sub]
  have hclamp : ∀ x : K, (if x > integrator_max then integrator_max
      else if x < integrator_min then integrator_min else x) =
        clamp x integrator_min integrator_max := by
    intro x
    unfold clamp
    by_cases hhi : integrator_max < x
    · rw [if_pos hhi, if_neg (not_lt.mpr (integrator_range.trans hhi.le)), if_pos hhi]
    · rw [if_neg hhi, if_neg hhi]
  unfold pidController
  dsimp only
  rw [herror, hclamp, Kd, zero_mul, add_zero]

lemma oddMonotone_estimateAlpha {libm : Libm K} (h : libm.Lawful) (state : StateData K) :
    OddMonotone fun c => estimateAlpha libm c state :=
  ⟨estimateAlpha_monotone h state, fun c => estimateAlpha_neg h c state⟩

omit [IsStrictOrderedRing K] in
/-- The law does not look at the roll. -/
lemma estimateAlpha_congr (libm : Libm K) (c : K) {state state' : StateData K}
    (htime : state'.time = state.time) (hvel : state'.velUp = state.velUp)
    (halt : state'.altitude = state.altitude) :
    estimateAlpha libm c state' = estimateAlpha libm c state := by
  unfold estimateAlpha subsonicFin supersonicFin
  rw [htime, hvel, halt]

end RollControl

/-! ## Flights that differ in the roll -/

namespace Steering

open StateEstimation (accel rollRate networkInt16)

/-- One event, with a roll rate that compares. -/
inductive Event.Compares (rel : K → K → Prop) : Event → Event → Prop where
  | imu (timestamp : Timestamp) (data data' : Bytes)
      (haccel : StateEstimation.countX (imuMessage timestamp data') =
        StateEstimation.countX (imuMessage timestamp data))
      (hrate : rel (rollRate (imuMessage timestamp data))
        (rollRate (imuMessage timestamp data'))) :
      Compares rel (.imu timestamp data) (.imu timestamp data')
  | umbilical (timestamp : Timestamp) (data : Bytes) :
      Compares rel (.umbilical timestamp data) (.umbilical timestamp data)
  | signal (code : String) : Compares rel (.signal code) (.signal code)
  | testrc (data : Bytes) : Compares rel (.testrc data) (.testrc data)

/-- Two commands that say the same, with an angle that compares. -/
structure CommandCompares (rel : K → K → Prop) (c c' : RollServoData K) : Prop where
  disable : c'.disable = c.disable
  angle : rel c.angle c'.angle

/-- Two estimates that are the same, with a roll rate that compares. -/
structure EstimateCompares (rel : K → K → Prop) (s s' : StateEstimation.State K) : Prop where
  time : s'.currentState.time = s.currentState.time
  velUp : s'.currentState.velUp = s.currentState.velUp
  altitude : s'.currentState.altitude = s.currentState.altitude
  rollRate : rel (-s.currentState.rollRate) (-s'.currentState.rollRate)
  lastTime : s'.lastTime = s.lastTime
  hasLaunched : s'.hasLaunched = s.hasLaunched
  launchTime : s'.launchTime = s.launchTime

/-- Two controllers that are in the same mode, with an integrator that compares. -/
structure ControlCompares (rel : K → K → Prop) (s s' : RollControl.State K) : Prop where
  enableServo : s'.enableServo = s.enableServo
  armed : s'.armed = s.armed
  launched : s'.launched = s.launched
  timeout : s'.timeout = s.timeout
  integrator : rel s.integrator s'.integrator

variable {rel : K → K → Prop} {libm : Libm K}

lemma forall₂_setCanardAngle (hrel : Comparison rel) {s s' : RollControl.State K}
    (henable : s'.enableServo = s.enableServo) {degrees degrees' : K}
    (h : rel degrees degrees') :
    List.Forall₂ (CommandCompares rel) (commands (RollControl.setCanardAngle noClock degrees s))
      (commands (RollControl.setCanardAngle noClock degrees' s')) := by
  have hodd : OddMonotone fun angle : K =>
      clamp angle RollControl.MIN_CANARD_ANGLE RollControl.MAX_CANARD_ANGLE :=
    oddMonotone_clamp rfl RollServo.canard_range
  refine .cons ⟨?_, hrel.map hodd h⟩ .nil
  show (!s'.enableServo).toUInt8 = (!s.enableServo).toUInt8
  rw [henable]

/-- Estimates that compare are answered with angles that compare. -/
lemma compares_rcReceiveState (hrel : Comparison rel) (hlawful : libm.Lawful)
    {s s' : RollControl.State K} (h : ControlCompares rel s s') (timestamp : Timestamp)
    {t t' : StateEstimation.State K} (ht : EstimateCompares rel t t') :
    ControlCompares rel
        (RollControl.rcReceiveState libm noClock (messageID 'V' 'S' 'T' 'E') timestamp
          t.currentState s).1
        (RollControl.rcReceiveState libm noClock (messageID 'V' 'S' 'T' 'E') timestamp
          t'.currentState s').1 ∧
      List.Forall₂ (CommandCompares rel)
        (commands (RollControl.rcReceiveState libm noClock (messageID 'V' 'S' 'T' 'E') timestamp
          t.currentState s).2)
        (commands (RollControl.rcReceiveState libm noClock (messageID 'V' 'S' 'T' 'E') timestamp
          t'.currentState s').2) := by
  by_cases hoff : s.launched = true ∧ s.enableServo = true ∧ s.timeout < fromPsasTime timestamp
  · -- both are cut off at once, and centre the fins
    have hoff' : s'.launched = true ∧ s'.enableServo = true ∧
        s'.timeout < fromPsasTime timestamp := by rwa [h.launched, h.enableServo, h.timeout]
    rw [RollControl.rcReceiveState_timeout libm noClock _ timestamp _ hoff.1 hoff.2.1 hoff.2.2,
      RollControl.rcReceiveState_timeout libm noClock _ timestamp _ hoff'.1 hoff'.2.1 hoff'.2.2]
    exact ⟨⟨rfl, h.armed, h.launched, h.timeout, h.integrator⟩,
      forall₂_setCanardAngle hrel rfl hrel.zero⟩
  · have hoff' : ¬(s'.launched = true ∧ s'.enableServo = true ∧
        s'.timeout < fromPsasTime timestamp) := by rwa [h.launched, h.enableServo, h.timeout]
    rw [RollControl.rcReceiveState_no_timeout libm noClock _ timestamp _ hoff,
      RollControl.rcReceiveState_no_timeout libm noClock _ timestamp _ hoff']
    by_cases hon : s.enableServo = true
    · have hon' : s'.enableServo = true := h.enableServo.trans hon
      rw [if_pos ⟨hon, rfl⟩, if_pos ⟨hon', rfl⟩, RollControl.pidController_eq,
        RollControl.pidController_eq]
      have hKp : (0 : K) ≤ RollControl.Kp := by norm_num [RollControl.Kp]
      have hKi : (0 : K) ≤ RollControl.Ki := by norm_num [RollControl.Ki]
      -- a sum of two terms, a clamped sum, and an odd and monotone law
      have hcorrection := hrel.add (hrel.map (oddMonotone_mul hKp) ht.rollRate)
        (hrel.map (oddMonotone_mul hKi) h.integrator)
      have hintegrator := hrel.map
        (oddMonotone_clamp RollControl.integrator_bounds.1 RollControl.integrator_range)
        (hrel.add h.integrator ht.rollRate)
      have hangle := hrel.map (RollControl.oddMonotone_estimateAlpha hlawful t.currentState)
        hcorrection
      rw [← RollControl.estimateAlpha_congr libm (_ + RollControl.Ki * s'.integrator) ht.time
        ht.velUp ht.altitude] at hangle
      exact ⟨⟨h.enableServo, h.armed, h.launched, h.timeout, hintegrator⟩,
        forall₂_setCanardAngle hrel h.enableServo hangle⟩
    · have hon' : ¬s'.enableServo = true := by rwa [h.enableServo]
      rw [if_neg fun hrun => hon hrun.1, if_neg fun hrun => hon' hrun.1]
      exact ⟨h, .nil⟩

omit [IsStrictOrderedRing K] in
/-- Estimates keep comparing. -/
lemma compares_stateReceiveImu {s s' : StateEstimation.State K} (h : EstimateCompares rel s s')
    {timestamp : Timestamp} {data data' : Bytes}
    (haccel : StateEstimation.countX (imuMessage timestamp data') =
      StateEstimation.countX (imuMessage timestamp data))
    (hrate : rel (rollRate (imuMessage timestamp data)) (rollRate (imuMessage timestamp data'))) :
    EstimateCompares rel (StateEstimation.stateReceiveImu (imuMessage timestamp data) s).1
      (StateEstimation.stateReceiveImu (imuMessage timestamp data') s').1 := by
  have hstamp : StateEstimation.stamp (imuMessage timestamp data') =
      StateEstimation.stamp (imuMessage timestamp data) := rfl
  have haccel' : accel (K := K) (imuMessage timestamp data') = accel (imuMessage timestamp data) :=
    congrArg (fun n : ℤ => StateEstimation.ADIS_GLSB * (n : K)) haccel
  have hlaunched : StateEstimation.Launched (imuMessage timestamp data') s' ↔
      StateEstimation.Launched (imuMessage timestamp data) s := by
    unfold StateEstimation.Launched StateEstimation.Large
    rw [h.hasLaunched, haccel']
  by_cases hl : StateEstimation.Launched (imuMessage timestamp data) s
  · -- the same acceleration over the same time leads to the same speed and altitude
    rw [StateEstimation.stateReceiveImu_launched hl,
      StateEstimation.stateReceiveImu_launched (hlaunched.mpr hl)]
    have hstep : StateEstimation.timeStep (K := K) (imuMessage timestamp data') s' =
        StateEstimation.timeStep (imuMessage timestamp data) s := by
      unfold StateEstimation.timeStep
      rw [hstamp, h.lastTime]
    unfold StateEstimation.integrate
    rw [hstep, haccel', hstamp, h.hasLaunched, h.launchTime, h.velUp, h.altitude]
    refine ⟨rfl, rfl, rfl, ?_, rfl, rfl, rfl⟩
    rwa [neg_neg, neg_neg]
  · rw [StateEstimation.stateReceiveImu_of_not_launched hl,
      StateEstimation.stateReceiveImu_of_not_launched (hlaunched.not.mpr hl)]
    exact ⟨h.time, h.velUp, h.altitude, h.rollRate, hstamp, h.hasLaunched, h.launchTime⟩

/-- Signals, test commands and umbilical reports do not look at the integrator. -/
lemma compares_step_other (libm : Libm K) (hrel : Comparison rel) {s s' : RollControl.State K}
    (h : ControlCompares rel s s') (e : RollControl.Event K)
    (he : ∀ clock ID timestamp state, e ≠ .rcReceiveState clock ID timestamp state) :
    ControlCompares rel (RollControl.step libm s e).1 (RollControl.step libm s' e).1 ∧
      List.Forall₂ (CommandCompares rel) (commands (RollControl.step libm s e).2)
        (commands (RollControl.step libm s' e).2) := by
  have hoff : ∀ clock, List.Forall₂ (CommandCompares rel)
      (commands (RollControl.setCanardAngle clock 0 (RollControl.setServoEnable false s)))
      (commands (RollControl.setCanardAngle clock 0 (RollControl.setServoEnable false s'))) :=
    fun clock => forall₂_setCanardAngle hrel rfl hrel.zero
  cases e with
  | rcReceiveArm clock signal =>
    unfold RollControl.step RollControl.rcReceiveArm
    dsimp only
    split_ifs
    · exact ⟨⟨rfl, rfl, h.launched, h.timeout, h.integrator⟩, .nil⟩
    · exact ⟨⟨rfl, rfl, h.launched, h.timeout, h.integrator⟩, hoff clock⟩
    · exact ⟨h, .nil⟩
  | rcRawTestrc clock data =>
    unfold RollControl.step RollControl.rcRawTestrc
    dsimp only
    rw [h.armed]
    split_ifs
    · exact ⟨⟨rfl, h.armed, h.launched, h.timeout, h.integrator⟩, .nil⟩
    · rw [commands_append, commands_append]
      exact ⟨⟨rfl, h.armed, h.launched, h.timeout, h.integrator⟩, List.rel_append (hoff clock) .nil⟩
    · exact ⟨h, .nil⟩
    · exact ⟨h, .nil⟩
  | rcRawUmb ID timestamp data =>
    refine ⟨?_, .nil⟩
    show ControlCompares rel (RollControl.rcRawUmb ID timestamp data s)
      (RollControl.rcRawUmb ID timestamp data s')
    by_cases hID : ID = messageID 'R' 'N' 'H' 'U'
    · rw [RollControl.rcRawUmb_report hID, RollControl.rcRawUmb_report hID, h.launched, h.timeout]
      exact ⟨h.enableServo, h.armed, rfl, rfl, h.integrator⟩
    · rw [RollControl.rcRawUmb_other hID, RollControl.rcRawUmb_other hID]
      exact h
  | rcReceiveState clock ID timestamp state => exact absurd rfl (he clock ID timestamp state)

omit [IsStrictOrderedRing K] in
/-- An IMU sample is one state message, with the new estimate. -/
lemma step_imu (libm : Libm K) (s : State K) (timestamp : Timestamp) (data : Bytes) :
    step libm s (.imu timestamp data) =
      (⟨(StateEstimation.stateReceiveImu (imuMessage timestamp data) s.state).1,
          (RollControl.rcReceiveState libm noClock (messageID 'V' 'S' 'T' 'E') timestamp
            (StateEstimation.stateReceiveImu (imuMessage timestamp data) s.state).1.currentState
            s.rc).1⟩,
        commands (RollControl.rcReceiveState libm noClock (messageID 'V' 'S' 'T' 'E') timestamp
          (StateEstimation.stateReceiveImu (imuMessage timestamp data) s.state).1.currentState
          s.rc).2) := by
  have hrc : rcEvents s.state (.imu timestamp data) =
      [.rcReceiveState noClock (messageID 'V' 'S' 'T' 'E') timestamp
        (StateEstimation.stateReceiveImu (imuMessage timestamp data) s.state).1.currentState] := rfl
  exact step_of_rcEvents hrc libm

/-- **In lock-step.** However the roll rates compare, the angles do. -/
theorem lockStep_samples (hrel : Comparison rel) (hlawful : libm.Lawful) :
    (machine libm).LockStep (machine libm)
      (fun s s' => EstimateCompares rel s.state s'.state ∧ ControlCompares rel s.rc s'.rc)
      (Event.Compares rel) (CommandCompares rel) where
  init := by
    refine ⟨⟨rfl, rfl, rfl, ?_, rfl, rfl, rfl⟩, ⟨rfl, rfl, rfl, rfl, hrel.zero⟩⟩
    show rel (-0) (-0)
    rw [neg_zero]
    exact hrel.zero
  step := by
    rintro s s' e e' ⟨hstate, hrc⟩ he
    show _ ∧ List.Forall₂ _ (step libm s e).2 (step libm s' e').2
    change (EstimateCompares rel (step libm s e).1.state (step libm s' e').1.state ∧
      ControlCompares rel (step libm s e).1.rc (step libm s' e').1.rc) ∧ _
    cases he with
    | imu timestamp data data' haccel hrate =>
      have hestimate := compares_stateReceiveImu hstate haccel hrate
      rw [step_imu, step_imu]
      obtain ⟨hcontrol, hangles⟩ := compares_rcReceiveState hrel hlawful hrc timestamp hestimate
      exact ⟨⟨hestimate, hcontrol⟩, hangles⟩
    | umbilical timestamp data =>
      rw [step_of_rcEvents rfl, step_of_rcEvents rfl]
      obtain ⟨hcontrol, hangles⟩ := compares_step_other libm hrel hrc
        (.rcRawUmb (messageID 'R' 'N' 'H' 'U') timestamp data) (fun _ _ _ _ => by simp)
      exact ⟨⟨hstate, hcontrol⟩, hangles⟩
    | signal code =>
      rw [step_of_rcEvents rfl, step_of_rcEvents rfl]
      obtain ⟨hcontrol, hangles⟩ := compares_step_other libm hrel hrc (.rcReceiveArm noClock code)
        (fun _ _ _ _ => by simp)
      exact ⟨⟨hstate, hcontrol⟩, hangles⟩
    | testrc data =>
      rw [step_of_rcEvents rfl, step_of_rcEvents rfl]
      obtain ⟨hcontrol, hangles⟩ := compares_step_other libm hrel hrc (.rcRawTestrc noClock data)
        (fun _ _ _ _ => by simp)
      exact ⟨⟨hstate, hcontrol⟩, hangles⟩

/-- An IMU sample that reports a roll and a launch. -/
def rollSample (high low : UInt8) : Bytes :=
  [0, 0, high, low, 0, 0, 0, 0, 127, 255] ++ List.replicate 14 0

/-- **More roll is never answered with less**, in exact arithmetic. In two flights that differ in
the roll rate alone, with no smaller readings in the second one, none of its angles is smaller. -/
theorem angles_monotone (hlawful : libm.Lawful) {es es' : List Event}
    (hes : List.Forall₂ (Event.Compares fun x x' : K => x ≤ x') es es') :
    List.Forall₂ (fun c c' : RollServoData K => c'.disable = c.disable ∧ c.angle ≤ c'.angle)
      ((machine libm).outputs es) ((machine libm).outputs es') :=
  ((lockStep_samples .le hlawful).runs hes).2.imp fun _ _ h => ⟨h.disable, h.angle⟩

/-- Armed, launched, and a sample that reports a roll. -/
def rollRun (high low : UInt8) : List Event :=
  [.signal "ARM", .imu (toPsasTime ⟨0, 0⟩ ⟨1, 0⟩) (rollSample 0 0),
    .imu (toPsasTime ⟨0, 0⟩ ⟨2, 0⟩) (rollSample high low)]

/-- A roll of one degree a second, and of two. -/
theorem angles_monotone_two :
    List.Forall₂ (fun c c' : RollServoData ℝ => c'.disable = c.disable ∧ c.angle ≤ c'.angle)
      ((machine RollServo.realLibm).outputs (rollRun 0 20))
      ((machine RollServo.realLibm).outputs (rollRun 0 40)) := by
  refine angles_monotone RollServo.realLibm_lawful (.cons (.signal "ARM")
    (.cons (.imu _ _ _ rfl (le_refl _)) (.cons (.imu _ _ _ rfl ?_) .nil)))
  refine mul_le_mul_of_nonneg_left (Int.cast_le.mpr (by decide)) ?_
  norm_num [StateEstimation.ADIS_RLSB]

/-- **Mirrored flights.** Turned the other way round, sample by sample, a flight is answered with
the angles the other way round, in exact arithmetic. -/
theorem angles_mirrored (hlawful : libm.Lawful) {es es' : List Event}
    (hes : List.Forall₂ (Event.Compares fun x x' : K => x' = -x) es es') :
    (machine libm).outputs es' =
      ((machine libm).outputs es).map fun c => { c with angle := -c.angle } := by
  have hcommands : List.Forall₂ Eq
      (((machine libm).outputs es).map fun c => { c with angle := -c.angle })
      ((machine libm).outputs es') := by
    rw [List.forall₂_map_left_iff]
    refine ((lockStep_samples .mirror hlawful).runs hes).2.imp fun c c' h => ?_
    have hc : c' = ⟨c'.angle, c'.disable⟩ := rfl
    rw [hc, h.angle, h.disable]
  rw [List.forall₂_eq_eq_eq] at hcommands
  exact hcommands.symm

/-- A roll of one degree a second, to either side. -/
theorem angles_mirrored_one :
    (machine RollServo.realLibm).outputs (rollRun 255 236) =
      ((machine RollServo.realLibm).outputs (rollRun 0 20)).map
        fun c => { c with angle := -c.angle } := by
  have hrate : ∀ bytes bytes' : Bytes,
      networkInt16 (ADIS16405Data.ofMem bytes').gyroX =
        -networkInt16 (ADIS16405Data.ofMem bytes).gyroX → ∀ timestamp,
      rollRate (K := ℝ) (imuMessage timestamp bytes') = -rollRate (imuMessage timestamp bytes) := by
    intro bytes bytes' h timestamp
    show StateEstimation.ADIS_RLSB * ((networkInt16 (ADIS16405Data.ofMem bytes').gyroX : ℤ) : ℝ) = _
    rw [h, Int.cast_neg, mul_neg]
    rfl
  exact angles_mirrored RollServo.realLibm_lawful (.cons (.signal "ARM")
    (.cons (.imu _ _ _ rfl (hrate _ _ (by decide) _))
      (.cons (.imu _ _ _ rfl (hrate _ _ (by decide) _)) .nil)))

/-! ## Against the roll -/

section

variable (libm)

/-- Where the angles of a step come from: the fins are centred, or the controller moves them. -/
lemma angle_cases {s : State K} {e : Event} {c : RollServoData K} (hc : c ∈ (step libm s e).2) :
    c.angle = 0 ∨ ∃ timestamp data, e = .imu timestamp data ∧
      c.angle = clamp (RollControl.estimateAlpha libm
          (RollControl.Kp * -(step libm s e).1.state.currentState.rollRate +
            RollControl.Ki * s.rc.integrator) (step libm s e).1.state.currentState)
        RollControl.MIN_CANARD_ANGLE RollControl.MAX_CANARD_ANGLE := by
  have hcentre : ∀ (s : RollControl.State K),
      c ∈ commands (RollControl.setCanardAngle noClock 0 s) → c.angle = 0 := by
    intro s hc
    rw [List.mem_singleton.mp hc]
    exact RollControl.clamp_zero
  cases e with
  | imu timestamp data =>
    rw [step_imu] at hc ⊢
    dsimp only at hc ⊢
    by_cases hoff : s.rc.launched = true ∧ s.rc.enableServo = true ∧
        s.rc.timeout < fromPsasTime timestamp
    · rw [RollControl.rcReceiveState_timeout libm noClock _ timestamp _ hoff.1 hoff.2.1 hoff.2.2]
        at hc
      exact Or.inl (hcentre _ hc)
    · rw [RollControl.rcReceiveState_no_timeout libm noClock _ timestamp _ hoff] at hc
      split_ifs at hc
      · rw [RollControl.pidController_eq] at hc
        refine Or.inr ⟨timestamp, data, rfl, ?_⟩
        rw [List.mem_singleton.mp hc]
      · cases hc
  | umbilical timestamp data => cases hc
  | signal code =>
    rw [step_of_rcEvents rfl] at hc
    change c ∈ commands (RollControl.rcReceiveArm noClock code s.rc).2 at hc
    unfold RollControl.rcReceiveArm at hc
    split_ifs at hc
    · cases hc
    · exact Or.inl (hcentre _ hc)
    · cases hc
  | testrc data =>
    rw [step_of_rcEvents rfl] at hc
    change c ∈ commands (RollControl.rcRawTestrc noClock data s.rc).2 at hc
    unfold RollControl.rcRawTestrc at hc
    split_ifs at hc
    · cases hc
    · rw [commands_append] at hc
      rcases List.mem_append.mp hc with hc | hc
      · exact Or.inl (hcentre _ hc)
      · cases hc
    · cases hc
    · cases hc

/-- What one call leaves of the integrator. -/
lemma integrator_step (s : RollControl.State K) (e : RollControl.Event K)
    (h : |s.integrator| ≤ RollControl.integrator_max) :
    |(RollControl.step libm s e).1.integrator| ≤ RollControl.integrator_max := by
  cases e with
  | rcReceiveArm clock signal =>
    unfold RollControl.step RollControl.rcReceiveArm
    dsimp only
    split_ifs
    · exact h
    · exact h
    · exact h
  | rcRawTestrc clock data =>
    unfold RollControl.step RollControl.rcRawTestrc
    dsimp only
    split_ifs
    · exact h
    · exact h
    · exact h
    · exact h
  | rcRawUmb ID timestamp data =>
    show |(RollControl.rcRawUmb ID timestamp data s).integrator| ≤ _
    by_cases hID : ID = messageID 'R' 'N' 'H' 'U'
    · rw [RollControl.rcRawUmb_report hID]
      exact h
    · rw [RollControl.rcRawUmb_other hID]
      exact h
  | rcReceiveState clock ID timestamp state =>
    show |(RollControl.rcReceiveState libm clock ID timestamp state s).1.integrator| ≤ _
    by_cases hoff : s.launched = true ∧ s.enableServo = true ∧ s.timeout < fromPsasTime timestamp
    · rw [RollControl.rcReceiveState_timeout libm clock ID timestamp state hoff.1 hoff.2.1 hoff.2.2]
      exact h
    · rw [RollControl.rcReceiveState_no_timeout libm clock ID timestamp state hoff]
      split_ifs
      · rw [RollControl.pidController_eq, abs_le, ← RollControl.integrator_bounds.1]
        exact ⟨le_clamp _ RollControl.integrator_range, clamp_le _ RollControl.integrator_range⟩
      · exact h

/-- In every run, the integrator stays between its bounds. -/
theorem integrator_run (es : List Event) :
    |((machine libm).run es).rc.integrator| ≤ RollControl.integrator_max := by
  have hmax : (0 : K) ≤ RollControl.integrator_max := by
    rw [RollControl.integrator_bounds.2]
    norm_num
  have hafter : ∀ (rcs : List (RollControl.Event K)) (s : RollControl.State K),
      |s.integrator| ≤ RollControl.integrator_max →
      |((RollControl.machine libm).after s rcs).integrator| ≤ RollControl.integrator_max := by
    intro rcs
    induction rcs with
    | nil => exact fun _ h => h
    | cons e rcs ih => exact fun s h => ih _ (integrator_step libm s e h)
  -- an event may be several calls, or none
  refine (machine libm).run_invariant
    (P := fun _ s => |s.rc.integrator| ≤ RollControl.integrator_max) ?_ ?_ es
  · show |(0 : K)| ≤ _
    rwa [abs_zero]
  · intro es e h
    exact hafter (rcEvents _ e) _ h

/-! ## Up to the launch -/

/-- The samples among some events. -/
def samples (es : List Event) : List Message :=
  es.filterMap fun
    | .imu timestamp data => some (imuMessage timestamp data)
    | _ => none

omit [IsStrictOrderedRing K] in
/-- The estimate is that of the samples. -/
theorem state_run (es : List Event) :
    ((machine libm).run es).state = StateEstimation.machine.run (samples es) := by
  induction es using List.reverseRecOn with
  | nil => rfl
  | append_singleton es e ih =>
    have hsamples : samples (es ++ [e]) = samples es ++ samples [e] := List.filterMap_append
    rw [Machine.run_snoc, hsamples, Machine.run_append, ← ih]
    cases e <;> rfl

omit [IsStrictOrderedRing K] in
/-- Up to the launch the estimate is that of `state_init`. -/
theorem currentState_of_not_launched (es : List Event)
    (h : ((machine libm).run es).state.hasLaunched = false) :
    ((machine libm).run es).state.currentState = StateEstimation.stateInit.currentState := by
  rw [state_run] at h ⊢
  refine StateEstimation.machine.run_invariant (P := fun _ s =>
    s.hasLaunched = false → s.currentState = StateEstimation.stateInit.currentState) (fun _ => rfl)
    ?_ (samples es) h
  intro ms m ih hbefore
  change (StateEstimation.stateReceiveImu m _).1.hasLaunched = false at hbefore
  show (StateEstimation.stateReceiveImu m _).1.currentState = _
  by_cases hl : StateEstimation.Launched m ((StateEstimation.machine (K := K)).run ms)
  · rw [StateEstimation.stateReceiveImu_launched hl] at hbefore
    cases hbefore
  · rw [StateEstimation.stateReceiveImu_of_not_launched hl] at hbefore ⊢
    exact ih hbefore

/-- Up to the launch the fins are in the centre. -/
theorem angle_of_not_launched {es : List Event} {e : Event}
    (h : ((machine libm).run (es ++ [e])).state.hasLaunched = false) :
    ∀ c ∈ (step libm ((machine libm).run es) e).2, c.angle = 0 := by
  intro c hc
  have hstate := currentState_of_not_launched libm (es ++ [e]) h
  rw [Machine.run_snoc] at hstate
  change (step libm ((machine libm).run es) e).1.state.currentState = _ at hstate
  rcases angle_cases libm hc with hzero | ⟨timestamp, data, rfl, hangle⟩
  · exact hzero
  · rw [hangle, hstate, RollControl.estimateAlpha_of_slow, RollControl.clamp_zero]
    exact zero_lt_one

/-- Without a launch they stay there. -/
theorem angle_of_quiet {es : List Event} (h : ∀ m ∈ samples es, ¬StateEstimation.Large K m) :
    ∀ c ∈ (machine libm).outputs es, c.angle = 0 := by
  rw [Machine.forall_mem_outputs_iff]
  intro pre e post hsplit
  apply angle_of_not_launched
  have hsamples : samples es = samples (pre ++ [e]) ++ samples post := by
    rw [hsplit, ← List.singleton_append, ← List.append_assoc]
    exact List.filterMap_append
  -- a launch would have been seen in one of the samples
  rw [state_run, Bool.eq_false_iff, ne_eq, (StateEstimation.estimate_invariant _).hasLaunched]
  intro hlaunch
  obtain ⟨launch, hfound⟩ := Option.isSome_iff_exists.mp hlaunch
  refine h launch ?_ (by simpa using List.find?_some hfound)
  rw [hsamples]
  exact List.mem_append_left _ (List.mem_of_find?_eq_some hfound)

omit [IsStrictOrderedRing K] in
/-- From the launch on the estimate has the roll rate of the last sample, turned round. -/
lemma rollRate_of_launched {s : State K} {timestamp : Timestamp} {data : Bytes}
    (h : (step libm s (.imu timestamp data)).1.state.hasLaunched = true) :
    -(step libm s (.imu timestamp data)).1.state.currentState.rollRate =
      rollRate (imuMessage timestamp data) := by
  rw [step_imu] at h ⊢
  by_cases hl : StateEstimation.Launched (imuMessage timestamp data) s.state
  · dsimp only
    rw [StateEstimation.stateReceiveImu_launched hl]
    exact neg_neg _
  · rw [StateEstimation.stateReceiveImu_of_not_launched hl] at h
    exact absurd (Or.inl h) hl

/-- **Never with the roll**, in exact arithmetic. Whatever came before, a sample with a roll rate of
20 degrees a second or more is answered with an angle against it, or with none. -/
theorem angle_opposes_roll {libm : Libm K} (hlawful : libm.Lawful) (es : List Event)
    (timestamp : Timestamp) (data : Bytes) :
    ∀ c ∈ ((machine libm).step ((machine libm).run es) (.imu timestamp data)).2,
      (20 ≤ rollRate (K := K) (imuMessage timestamp data) → 0 ≤ c.angle) ∧
        (rollRate (K := K) (imuMessage timestamp data) ≤ -20 → c.angle ≤ 0) := by
  intro c hc
  cases hbefore : ((machine libm).run (es ++ [.imu timestamp data])).state.hasLaunched with
  | false =>
    -- the estimate is still that of `state_init`, whatever the sample says
    rw [angle_of_not_launched libm hbefore c hc]
    exact ⟨fun _ => le_refl 0, fun _ => le_refl 0⟩
  | true =>
    rw [Machine.run_snoc] at hbefore
    have hrate := rollRate_of_launched libm hbefore
    have hbound := abs_le.mp (integrator_run libm es)
    rw [RollControl.integrator_bounds.2] at hbound
    have hcentre : clamp (0 : K) RollControl.MIN_CANARD_ANGLE RollControl.MAX_CANARD_ANGLE = 0 :=
      RollControl.clamp_zero
    have hmono := clamp_monotone (RollServo.canard_range (K := K))
    rcases angle_cases libm hc with hzero | ⟨timestamp', data', -, hangle⟩
    · rw [hzero]
      exact ⟨fun _ => le_refl 0, fun _ => le_refl 0⟩
    · rw [hangle, hrate]
      -- the integrator counts for no more than 100, and the roll for no less
      refine ⟨fun hroll => ?_, fun hroll => ?_⟩
      · rw [← hcentre]
        apply hmono
        apply RollControl.estimateAlpha_nonneg hlawful
        norm_num [RollControl.Kp, RollControl.Ki]
        linarith
      · rw [← hcentre]
        apply hmono
        apply RollControl.estimateAlpha_nonpos hlawful
        norm_num [RollControl.Kp, RollControl.Ki]
        linarith

omit [IsStrictOrderedRing K] in
/-- With the servo enabled and the umbilical connected, a sample is answered. -/
lemma exists_enabled (libm : Libm K) {s : State K} (hlaunched : s.rc.launched = false)
    (henable : s.rc.enableServo = true) (timestamp : Timestamp) (data : Bytes) :
    ∃ c ∈ (step libm s (.imu timestamp data)).2, c.disable = 0 := by
  have hdisable : (!(RollControl.pidController (StateEstimation.stateReceiveImu
      (imuMessage timestamp data) s.state).1.currentState s.rc).2.enableServo).toUInt8 = 0 := by
    rw [RollControl.pidController_enableServo, henable]
    rfl
  have hoff : ¬(s.rc.launched = true ∧ s.rc.enableServo = true ∧
      s.rc.timeout < fromPsasTime timestamp) := by
    rw [hlaunched]
    exact fun hoff => Bool.false_ne_true hoff.1
  rw [step_imu, RollControl.rcReceiveState_no_timeout _ _ _ _ _ hoff, if_pos ⟨henable, rfl⟩]
  exact ⟨_, List.mem_singleton_self _, hdisable⟩

/-- A roll of 20 degrees a second, 400 of the sensor's counts. -/
theorem angle_opposes_roll_twenty :
    ∃ c ∈ ((machine RollServo.realLibm).step ((machine RollServo.realLibm).run (rollRun 0 20))
      (.imu (toPsasTime ⟨0, 0⟩ ⟨3, 0⟩) (rollSample 1 144))).2, 0 ≤ c.angle := by
  obtain ⟨c, hc, -⟩ := exists_enabled RollServo.realLibm
    (s := (machine RollServo.realLibm).run (rollRun 0 20)) rfl rfl
    (toPsasTime ⟨0, 0⟩ ⟨3, 0⟩) (rollSample 1 144)
  have hcount : networkInt16 (ADIS16405Data.ofMem (rollSample 1 144)).gyroX = 400 := by decide
  have hrate : (20 : ℝ) ≤ rollRate
      (imuMessage (toPsasTime ⟨0, 0⟩ ⟨3, 0⟩) (rollSample 1 144)) := by
    show (20 : ℝ) ≤ StateEstimation.ADIS_RLSB *
      ((networkInt16 (ADIS16405Data.ofMem (rollSample 1 144)).gyroX : ℤ) : ℝ)
    rw [hcount]
    norm_num [StateEstimation.ADIS_RLSB]
  exact ⟨c, hc, (angle_opposes_roll RollServo.realLibm_lawful (rollRun 0 20)
    (toPsasTime ⟨0, 0⟩ ⟨3, 0⟩) (rollSample 1 144) c hc).1 hrate⟩

end

end Steering

end

/-! ## On the pad -/

namespace Program

open Ethmux (Packet WellFormed deliveries delivery)
open Logger (Entry Record recordOf)

variable (env : Main.Env K)

/-- The IMU sample in a record. -/
def sampleOf (r : Record) : Option Message :=
  if r.ID = messageID 'A' 'D' 'I' 'S' then some (Steering.imuMessage r.timestamp r.data) else none

/-- The record of a sample that was handed over is that sample. -/
lemma imuMessage_delivery (starttime : Timespec) (ps : List Packet) :
    ∀ m ∈ deliveries .ADIS ((Ethmux.machine starttime).outputs ps),
      Steering.imuMessage (recordOf m).timestamp (recordOf m).data = m := by
  rw [Ethmux.forall_mem_deliveries_iff]
  intro pre p post _ _ _
  have hdata : (recordOf (delivery starttime .ADIS p)).data = p.received.drop 4 :=
    Ethmux.payload_delivery starttime .ADIS p
  rw [hdata]
  rfl

/-- What steers is read off the records, the samples off their own. -/
lemma samples_eq_filterMap (es : List Event) : Steering.samples (steeringEvents env es) =
    ((entries env es).map Entry.record).filterMap sampleOf := by
  rw [entries_filterMap, Steering.samples, steeringEvents, List.filterMap_filterMap]
  apply List.filterMap_congr
  intro o _
  cases o with
  | log call =>
    show (call.message.bind _).bind _ = call.message.bind _
    cases call.message with
    | none => rfl
    | some m =>
      show (Steering.Event.ofRecord (recordOf m)).bind _ = sampleOf (recordOf m)
      unfold Steering.Event.ofRecord sampleOf
      split_ifs <;> rfl
  | rsReceiveAdj adj => rfl
  | respond message =>
    show Option.bind (if message = "Roll control servos enabled" then _ else _) _ = none
    split_ifs
    · rfl
    · rfl
    · rfl

lemma filterMap_sampleOf (records : List Record) : records.filterMap sampleOf =
    (records.filter fun r => r.ID = messageID 'A' 'D' 'I' 'S').map
      fun r => Steering.imuMessage r.timestamp r.data := by
  rw [← List.filterMap_eq_filter, List.map_filterMap]
  apply List.filterMap_congr
  intro r _
  unfold sampleOf
  by_cases hID : r.ID = messageID 'A' 'D' 'I' 'S'
  · simp [Option.guard, hID]
  · simp [Option.guard, hID]

/-- The IMU records are the samples that the network hands over. -/
lemma filter_ADIS_entries (es : List Event) : ((entries env es).map Entry.record).filter
    (fun r => r.ID = messageID 'A' 'D' 'I' 'S') =
      (deliveries .ADIS ((Ethmux.machine env.starttime).outputs (packets es))).map recordOf := by
  have hsource := recorder_source (by decide : Ethmux.Source.ADIS ≠ .GPSCOTS)
    env.starttime (packets es)
  rw [← networkRecords_entries env, List.filter_filter] at hsource
  rw [← hsource]
  apply List.filter_congr
  intro r _
  by_cases hID : r.ID = messageID 'A' 'D' 'I' 'S'
  · have hown : ¬Main.OwnID (messageID 'A' 'D' 'I' 'S') := by decide
    simp [hID, hown, Ethmux.demuxType]
  · simp [hID, Ethmux.demuxType]

/-- **The samples that steer** are those the network hands over. -/
theorem samples_steeringEvents (es : List Event) :
    Steering.samples (steeringEvents env es) =
      deliveries .ADIS ((Ethmux.machine env.starttime).outputs (packets es)) := by
  rw [samples_eq_filterMap, filterMap_sampleOf, filter_ADIS_entries, List.map_map]
  exact (List.map_congr_left (imuMessage_delivery env.starttime (packets es))).trans (List.map_id _)

variable [IsStrictOrderedRing K] [FloorSemiring K]

/-- **Centred on the pad.** As long as no well-formed IMU datagram holds an acceleration of more
than 40 m/s², whatever else arrives in a regular run, every datagram to the servo centres the fins
in exact arithmetic: 25202 ticks. -/
theorem fins_centred_on_pad {ok : ℕ → Bool} (es : List Event) (hregular : Regular env ok es)
    (h : ∀ p ∈ packets es, WellFormed .ADIS p →
      ¬StateEstimation.Large K (delivery env.starttime .ADIS p)) :
    ∃ flags : List UInt8, servoData (sent ok (session env es)) =
      flags.zipIdx.map fun (flag, n) => some (beBytes 4 (n % 2 ^ 32) ++ [0x62, 0x72, flag]) := by
  have hquiet : ∀ m ∈ Steering.samples (steeringEvents env es), ¬StateEstimation.Large K m := by
    rw [samples_steeringEvents, Ethmux.forall_mem_deliveries_iff]
    intro pre p post hsplit hwell _
    exact h p (by rw [hsplit]; simp) hwell
  have hcentre := Steering.angle_of_quiet env.libm hquiet
  refine ⟨(commands env es).map RollServoData.disable, ?_⟩
  rw [sent_of_ok hregular.writes, servoData_session, List.zipIdx_map, List.map_map]
  apply List.map_congr_left
  intro cn hcn
  have hangle : cn.1.angle = 0 := hcentre cn.1 (List.fst_mem_of_mem_zipIdx hcn)
  show some (RollServo.datagram cn.2 cn.1) = _
  rw [RollServo.datagram, hangle, RollServo.pulse_zero, List.append_assoc]
  rfl

/-- Armed on the pad, with an IMU at rest, and safe again: two datagrams, the second of which
disables the servo. -/
theorem fins_centred_on_pad_armed :
    ∃ flags : List UInt8, flags = [0, 1] ∧
      servoData (sent noFailures (session Main.stillEnv armedRun)) =
        flags.zipIdx.map fun (flag, n) => some (beBytes 4 (n % 2 ^ 32) ++ [0x62, 0x72, flag]) := by
  obtain ⟨flags, hflags⟩ :=
    fins_centred_on_pad Main.stillEnv armedRun regular_armedRun (by decide +kernel)
  have hlength := congrArg List.length hflags
  rw [servoData_armedRun, List.length_map, List.length_zipIdx] at hlength
  obtain ⟨first, second, rfl⟩ := List.length_eq_two.mp hlength.symm
  refine ⟨[first, second], ?_, hflags⟩
  -- the flag is the last byte of each datagram
  have hlast := congrArg (List.map fun data => data.bind List.getLast?)
    (servoData_armedRun.symm.trans hflags)
  change [some 0, some 1] = [some first, some second] at hlast
  cases hlast
  rfl

end Program

end FlightComputer
