import FlightComputer.ControllerTheorems
import Mathlib.Tactic.FieldSimp
import Mathlib.Tactic.LinearCombination

/-!
# What the canards do

`estimate_alpha` is asked for a roll acceleration and answers with an angle of the canards. Here is
what it takes the canards to do, once below and once above the speed of sound: the lift at an angle
(`subsonicLift`, `supersonicLift`), and the roll acceleration that a lift causes
(`rollAcceleration`). Put into that, the angles of the servo messages are right: the acceleration
is what the PID controller asks for, or the most that 15 degrees can give (`fins_meet_demand`).
-/

namespace FlightComputer

variable {K : Type} [Field K] [LinearOrder K]

namespace RollControl

/-! ## The canards -/

/-- The lift coefficient below the speed of sound, at an angle in degrees. -/
def subsonicLift (alpha : K) : K := FINFIT_A * (alpha * |alpha|) + FINFIT_B * alpha

/-- Above the speed of sound it is proportional to the angle. -/
def supersonicLift (libm : Libm K) (alpha : K) : K := FIN_CBASE * degreesToRadians libm alpha

/-- The roll acceleration that a lift coefficient causes, in degrees per second squared: the torque
over the moment of inertia. -/
def rollAcceleration (libm : Libm K) (state : StateData K) (lift : K) : K :=
  radiansToDegrees libm (2.0 * airDensity libm state.altitude * state.velUp * state.velUp *
    FIN_AREA * FIN_ARM * lift / inertia state.time)

variable [IsStrictOrderedRing K] {libm : Libm K} {state : StateData K}

lemma mul_abs_monotone : Monotone fun x : K => x * |x| := by
  intro x y hxy
  show x * |x| ≤ y * |y|
  rcases le_total 0 x with hx | hx
  · rw [abs_of_nonneg hx, abs_of_nonneg (hx.trans hxy)]
    exact mul_self_le_mul_self hx hxy
  · rcases le_total 0 y with hy | hy
    · have hneg : x * |x| ≤ 0 := mul_nonpos_of_nonpos_of_nonneg hx (abs_nonneg x)
      exact hneg.trans (mul_nonneg hy (abs_nonneg y))
    · have hsquares := mul_self_le_mul_self (neg_nonneg.mpr hy) (neg_le_neg hxy)
      rw [neg_mul_neg, neg_mul_neg] at hsquares
      rw [abs_of_nonpos hx, abs_of_nonpos hy, mul_neg, mul_neg]
      exact neg_le_neg hsquares

lemma subsonicLift_strictMono : StrictMono (subsonicLift : K → K) := by
  have hA : (0 : K) ≤ FINFIT_A := FINFIT_A_pos.le
  have hB : (0 : K) < FINFIT_B := by norm_num [FINFIT_B]
  exact (mul_abs_monotone.const_mul hA).add_strictMono (strictMono_id.const_mul hB)

lemma supersonicLift_strictMono (h : libm.Lawful) : StrictMono (supersonicLift libm) := by
  intro x y hxy
  have hbase : (0 : K) < FIN_CBASE := by norm_num [FIN_CBASE]
  have hradians : degreesToRadians libm x < degreesToRadians libm y :=
    div_lt_div_of_pos_right (mul_lt_mul_of_pos_right hxy h.M_PI_pos) (by norm_num)
  exact mul_lt_mul_of_pos_left hradians hbase

lemma rollAcceleration_strictMono (h : libm.Lawful) (hv : 1 ≤ state.velUp) :
    StrictMono (rollAcceleration libm state) := by
  intro x y hxy
  have hpressure := lift_pos (airDensity_pos h state.altitude) hv
  have htorque : 2.0 * airDensity libm state.altitude * state.velUp * state.velUp * FIN_AREA *
      FIN_ARM * x < 2.0 * airDensity libm state.altitude * state.velUp * state.velUp * FIN_AREA *
      FIN_ARM * y := by
    apply mul_lt_mul_of_pos_left hxy
    norm_num
    linarith
  exact div_lt_div_of_pos_right
    (mul_lt_mul_of_pos_right (div_lt_div_of_pos_right htorque (inertia_pos state.time))
      (by norm_num)) h.M_PI_pos

omit [LinearOrder K] [IsStrictOrderedRing K] in
lemma supersonicLift_neg (libm : Libm K) (alpha : K) :
    supersonicLift libm (-alpha) = -supersonicLift libm alpha := by
  unfold supersonicLift degreesToRadians
  ring

omit [IsStrictOrderedRing K] in
lemma subsonicLift_neg (alpha : K) : subsonicLift (-alpha) = -subsonicLift alpha := by
  unfold subsonicLift
  rw [abs_neg]
  ring

omit [IsStrictOrderedRing K] in
lemma rollAcceleration_neg (libm : Libm K) (state : StateData K) (lift : K) :
    rollAcceleration libm state (-lift) = -rollAcceleration libm state lift := by
  unfold rollAcceleration radiansToDegrees
  ring

/-! ## The angle for an acceleration -/

/-- The torque that an acceleration takes. -/
lemma rollAcceleration_of_torque (h : libm.Lawful) {lift size : K}
    (htorque : 2 * (airDensity libm state.altitude * state.velUp * state.velUp * FIN_AREA *
      FIN_ARM) * lift = size * (libm.M_PI / 180.0) * inertia state.time) :
    rollAcceleration libm state lift = size := by
  have hI := (inertia_pos (K := K) state.time).ne'
  have hpi := h.M_PI_pos.ne'
  have htwo : (2.0 : K) = 2 := by norm_num
  have hassoc : 2.0 * airDensity libm state.altitude * state.velUp * state.velUp * FIN_AREA *
      FIN_ARM * lift = 2 * (airDensity libm state.altitude * state.velUp * state.velUp * FIN_AREA *
        FIN_ARM) * lift := by
    rw [htwo]
    ring
  rw [rollAcceleration, radiansToDegrees, hassoc, htorque, mul_div_cancel_right₀ _ hI]
  norm_num
  field_simp

/-- The subsonic angle is the root of the fit. -/
lemma subsonicFin_torque (h : libm.Lawful) (hsqrt : ∀ x, 0 ≤ x → libm.sqrt x * libm.sqrt x = x)
    {aa I rd : K} (hI : 0 < I) (hrd : 0 < rd) (hv : 1 ≤ state.velUp) (haa : 0 ≤ aa) :
    2 * (rd * state.velUp * state.velUp * FIN_AREA * FIN_ARM) *
      subsonicLift (subsonicFin libm aa I rd state) = aa * I := by
  have hlift := lift_pos hrd hv
  have hA := FINFIT_A_pos (K := K)
  have hsize : |2 * aa * I * FINFIT_A| = 2 * aa * I * FINFIT_A := abs_of_nonneg (by positivity)
  have halpha := (response_subsonicFin h hI hrd hv).nonneg haa
  have hroot := hsqrt (2 * aa * I * FINFIT_A /
      (rd * state.velUp * state.velUp * FIN_AREA * FIN_ARM) + FINFIT_B * FINFIT_B)
    (add_nonneg (div_nonneg (by positivity) hlift.le) (mul_self_nonneg _))
  -- what the square root is taken for
  have hfit : 2 * FINFIT_A * subsonicFin libm aa I rd state =
      libm.sqrt (2 * aa * I * FINFIT_A /
        (rd * state.velUp * state.velUp * FIN_AREA * FIN_ARM) + FINFIT_B * FINFIT_B) -
        FINFIT_B := by
    rw [subsonicFin, hsize]
    exact mul_div_cancel₀ _ (by positivity)
  have hcancel : rd * state.velUp * state.velUp * FIN_AREA * FIN_ARM *
      (2 * aa * I * FINFIT_A / (rd * state.velUp * state.velUp * FIN_AREA * FIN_ARM)) =
        2 * aa * I * FINFIT_A := mul_div_cancel₀ _ hlift.ne'
  rw [subsonicLift, abs_of_nonneg halpha]
  apply mul_left_cancel₀ (mul_pos two_pos hA).ne'
  generalize subsonicFin libm aa I rd state = alpha at hfit ⊢
  generalize rd * state.velUp * state.velUp * FIN_AREA * FIN_ARM = lift at hroot hfit hcancel ⊢
  generalize libm.sqrt (2 * aa * I * FINFIT_A / lift + FINFIT_B * FINFIT_B) = root at hroot hfit
  -- the square of the root, less that of `FINFIT_B`
  linear_combination lift * (2 * FINFIT_A * alpha + root + FINFIT_B) * hfit + lift * hroot + hcancel

/-- The supersonic angle is proportional to the torque. -/
lemma supersonicFin_torque (h : libm.Lawful) {aa I rd : K} (hrd : 0 < rd) (hv : 1 ≤ state.velUp) :
    2 * (rd * state.velUp * state.velUp * FIN_AREA * FIN_ARM) *
      supersonicLift libm (supersonicFin libm aa I rd state) = aa * I := by
  have hlift := supersonic_lift_pos hrd hv
  have hradians : ∀ x : K, degreesToRadians libm (radiansToDegrees libm x) = x := by
    intro x
    have hpi := h.M_PI_pos.ne'
    unfold degreesToRadians radiansToDegrees
    rw [div_mul_cancel₀ _ hpi, mul_div_cancel_right₀ _ (by norm_num)]
  have hcancel : 2 * rd * state.velUp * state.velUp * FIN_AREA * FIN_ARM * FIN_CBASE *
      (aa * I / (2 * rd * state.velUp * state.velUp * FIN_AREA * FIN_ARM * FIN_CBASE)) = aa * I :=
    mul_div_cancel₀ _ hlift.ne'
  rw [supersonicLift, supersonicFin, hradians]
  linear_combination hcancel

/-! ## The law undoes the canards -/

/-- The roll acceleration at an angle, below the speed of sound. -/
def subsonicRoll (libm : Libm K) (state : StateData K) (alpha : K) : K :=
  rollAcceleration libm state (subsonicLift alpha)

/-- The same above it. -/
def supersonicRoll (libm : Libm K) (state : StateData K) (alpha : K) : K :=
  rollAcceleration libm state (supersonicLift libm alpha)

lemma subsonicRoll_strictMono (h : libm.Lawful) (hv : 1 ≤ state.velUp) :
    StrictMono (subsonicRoll libm state) :=
  (rollAcceleration_strictMono h hv).comp subsonicLift_strictMono

lemma supersonicRoll_strictMono (h : libm.Lawful) (hv : 1 ≤ state.velUp) :
    StrictMono (supersonicRoll libm state) :=
  (rollAcceleration_strictMono h hv).comp (supersonicLift_strictMono h)

/-- The angle of a regime, with its sign: `fin` is one of the two estimations. -/
def regime (libm : Libm K) (fin : Libm K → K → K → K → StateData K → K) (state : StateData K) :
    K → K :=
  signed 1 fun size =>
    fin libm (size * (libm.M_PI / 180.0)) (inertia state.time) (airDensity libm state.altitude) state

lemma size_nonneg (h : libm.Lawful) {size : K} (hsize : 0 ≤ size) :
    0 ≤ size * (libm.M_PI / 180.0) :=
  mul_nonneg hsize (div_nonneg h.M_PI_pos.le (by norm_num))

lemma subsonicRoll_regime (h : libm.Lawful) (hsqrt : ∀ x, 0 ≤ x → libm.sqrt x * libm.sqrt x = x)
    (hv : 1 ≤ state.velUp) {c : K} (hc : 1 ≤ |c|) :
    subsonicRoll libm state (regime libm subsonicFin state c) = c := by
  refine Response.signed_undone (fun a => ?_) (fun size hsize => ?_) hc
  · rw [subsonicRoll, subsonicLift_neg, rollAcceleration_neg]
    rfl
  · exact rollAcceleration_of_torque h (subsonicFin_torque h hsqrt (inertia_pos state.time)
      (airDensity_pos h state.altitude) hv (size_nonneg h hsize))

lemma supersonicRoll_regime (h : libm.Lawful) (hv : 1 ≤ state.velUp) {c : K} (hc : 1 ≤ |c|) :
    supersonicRoll libm state (regime libm supersonicFin state c) = c := by
  refine Response.signed_undone (fun a => ?_) (fun size _ => ?_) hc
  · rw [supersonicRoll, supersonicLift_neg, rollAcceleration_neg]
    rfl
  · exact rollAcceleration_of_torque h
      (supersonicFin_torque h (airDensity_pos h state.altitude) hv)

/-- **The regimes.** Each has its own angle, and the one between them mixes the two. -/
theorem estimateAlpha_regimes (h : libm.Lawful) (hv : 1 ≤ state.velUp) (c : K) :
    estimateAlpha libm c state =
      if state.velUp ≤ SUBSONIC then regime libm subsonicFin state c
      else if state.velUp < SUPERSONIC then
        regime libm subsonicFin state c +
          (regime libm supersonicFin state c - regime libm subsonicFin state c) *
            ((state.velUp - SUBSONIC) / (SUPERSONIC - SUBSONIC))
      else regime libm supersonicFin state c := by
  rw [estimateAlpha_eq h hv]
  unfold finAngle
  split_ifs with hslow hmedium
  · rfl
  · rw [regime, regime, ← Response.signed_blend]
    simp only [mul_div_assoc]
  · rfl

end RollControl

/-! ## What the servo is told -/

namespace Steering

open RollControl

/-- The estimate that a sample leads to. -/
def estimated (s : State K) (timestamp : Timestamp) (data : Bytes) : StateData K :=
  (estimate s.state (.imu timestamp data)).currentState

/-- What the PID controller then asks for, in degrees per second squared. -/
def demand (s : State K) (timestamp : Timestamp) (data : Bytes) : K :=
  (pidController (estimated s timestamp data) s.rc).1

/-- A message that enables the servo has the angle of the control law. -/
lemma angle_of_enabled (libm : Libm K) {s : State K} {timestamp : Timestamp} {data : Bytes}
    {c : RollServoData K} (hc : c ∈ (step libm s (.imu timestamp data)).2) (hon : c.disable = 0) :
    c.angle = clamp (estimateAlpha libm (demand s timestamp data) (estimated s timestamp data))
      MIN_CANARD_ANGLE MAX_CANARD_ANGLE := by
  rw [step_imu] at hc
  dsimp only at hc
  by_cases hoff : s.rc.launched = true ∧ s.rc.enableServo = true ∧
      s.rc.timeout < fromPsasTime timestamp
  · -- the message of the cut-off disables the servo
    rw [rcReceiveState_timeout libm noClock _ timestamp _ hoff.1 hoff.2.1 hoff.2.2] at hc
    rw [List.mem_singleton.mp hc] at hon
    change (1 : UInt8) = 0 at hon
    exact absurd hon (by decide)
  · rw [rcReceiveState_no_timeout libm noClock _ timestamp _ hoff] at hc
    split_ifs at hc
    · rw [List.mem_singleton.mp hc]
      rfl
    · cases hc

omit [Field K] in
/-- A strictly monotone effect of a clamped value is clamped to the effects of the bounds. -/
lemma map_clamp {effect : K → K} (h : StrictMono effect) (value lo hi : K) :
    effect (clamp value lo hi) = clamp (effect value) (effect lo) (effect hi) := by
  unfold clamp
  simp only [gt_iff_lt, h.lt_iff_lt]
  split_ifs <;> rfl

variable [IsStrictOrderedRing K]

/-- The angle that meets a demand for roll acceleration, as far as 15 degrees can. -/
structure Meets (libm : Libm K) (state : StateData K) (acceleration angle : K) : Prop where
  /-- small demands are not met, nor any without a speed -/
  idle : |acceleration| < 1 ∨ state.velUp < 1 → angle = 0
  subsonic : 1 ≤ |acceleration| → 1 ≤ state.velUp → state.velUp ≤ 265 →
    subsonicRoll libm state angle =
      clamp acceleration (subsonicRoll libm state (-15)) (subsonicRoll libm state 15)
  supersonic : 1 ≤ |acceleration| → 330 ≤ state.velUp →
    supersonicRoll libm state angle =
      clamp acceleration (supersonicRoll libm state (-15)) (supersonicRoll libm state 15)
  /-- in between, the mean of the angles for either side, weighted by the speed -/
  transonic : 1 ≤ |acceleration| → 265 < state.velUp → state.velUp < 330 → ∃ y₀ y₁,
    subsonicRoll libm state y₀ = acceleration ∧ supersonicRoll libm state y₁ = acceleration ∧
      angle = clamp (y₀ + (y₁ - y₀) * ((state.velUp - 265) / (330 - 265))) (-15) 15

/-- **The fins do what the controller asks for.** In exact arithmetic, the square root included, and
in whatever state, the angle of a message that enables the servo gives the roll acceleration that
the PID controller asks for, or the most that the fins can give. -/
theorem fins_meet_demand {libm : Libm K} (hlawful : libm.Lawful)
    (hsqrt : ∀ x, 0 ≤ x → libm.sqrt x * libm.sqrt x = x) (s : State K) (timestamp : Timestamp)
    (data : Bytes) :
    ∀ c ∈ (step libm s (.imu timestamp data)).2, c.disable = 0 →
      Meets libm (estimated s timestamp data) (demand s timestamp data) c.angle := by
  intro c hc hon
  have hangle := angle_of_enabled libm hc hon
  have hbounds : (MIN_CANARD_ANGLE : K) = -15 ∧ (MAX_CANARD_ANGLE : K) = 15 := by
    norm_num [MIN_CANARD_ANGLE, MAX_CANARD_ANGLE]
  rw [hbounds.1, hbounds.2] at hangle
  generalize demand s timestamp data = acceleration at hangle ⊢
  generalize estimated s timestamp data = state at hangle ⊢
  -- one case for each branch of `estimate_alpha`
  refine ⟨fun hidle => ?_, fun hsize hv hslow => ?_, fun hsize hfast => ?_,
    fun hsize hslow hfast => ?_⟩
  · have hzero : estimateAlpha libm acceleration state = 0 := if_pos hidle
    rw [hangle, hzero]
    exact clamp_eq (by norm_num) (by norm_num)
  · have hlaw := estimateAlpha_regimes hlawful hv acceleration
    rw [if_pos (show state.velUp ≤ SUBSONIC from hslow)] at hlaw
    rw [hangle, hlaw, map_clamp (subsonicRoll_strictMono hlawful hv),
      subsonicRoll_regime hlawful hsqrt hv hsize]
  · have hv : 1 ≤ state.velUp := le_trans (by norm_num) hfast
    have hlaw := estimateAlpha_regimes hlawful hv acceleration
    have hspan : (SUBSONIC : K) < SUPERSONIC := by norm_num [SUBSONIC, SUPERSONIC]
    rw [if_neg (not_le.mpr (hspan.trans_le hfast)),
      if_neg (show ¬state.velUp < SUPERSONIC from not_lt.mpr hfast)] at hlaw
    rw [hangle, hlaw, map_clamp (supersonicRoll_strictMono hlawful hv),
      supersonicRoll_regime hlawful hv hsize]
  · have hv : 1 ≤ state.velUp := le_trans (by norm_num) hslow.le
    have hlaw := estimateAlpha_regimes hlawful hv acceleration
    rw [if_neg (show ¬state.velUp ≤ SUBSONIC from not_le.mpr hslow),
      if_pos (show state.velUp < SUPERSONIC from hfast)] at hlaw
    refine ⟨_, _, subsonicRoll_regime hlawful hsqrt hv hsize,
      supersonicRoll_regime hlawful hv hsize, ?_⟩
    rw [hangle, hlaw]
    rfl

/-- At 300 m/s, with the servo enabled, and no time since the last sample. -/
noncomputable def climbing : State ℝ where
  state :=
    { currentState := RollServo.transonic
      lastTime := fromPsasTime (toPsasTime ⟨0, 0⟩ ⟨3, 0⟩)
      hasLaunched := true
      launchTime := fromPsasTime (toPsasTime ⟨0, 0⟩ ⟨1, 0⟩) }
  rc := { rollcontrolInit with enableServo := true }

lemma estimated_climbing :
    (estimated climbing (toPsasTime ⟨0, 0⟩ ⟨3, 0⟩) (rollSample 1 144)).velUp = 300 ∧
      demand climbing (toPsasTime ⟨0, 0⟩ ⟨3, 0⟩) (rollSample 1 144) = 100 := by
  have hlaunched : StateEstimation.Launched
      (imuMessage (toPsasTime ⟨0, 0⟩ ⟨3, 0⟩) (rollSample 1 144)) climbing.state := Or.inl rfl
  have hstep : StateEstimation.timeStep
      (imuMessage (toPsasTime ⟨0, 0⟩ ⟨3, 0⟩) (rollSample 1 144)) climbing.state = 0 := by
    have hseconds : (StateEstimation.seconds 3000000000 3000000000 : ℝ) = 0 := by
      norm_num [StateEstimation.seconds]
    exact hseconds
  have hcount : StateEstimation.networkInt16
      (ADIS16405Data.ofMem (rollSample 1 144)).gyroX = 400 := by decide
  have hrate : StateEstimation.rollRate (K := ℝ)
      (imuMessage (toPsasTime ⟨0, 0⟩ ⟨3, 0⟩) (rollSample 1 144)) = 20 := by
    show (StateEstimation.ADIS_RLSB : ℝ) * ((StateEstimation.networkInt16
      (ADIS16405Data.ofMem (rollSample 1 144)).gyroX : ℤ) : ℝ) = 20
    rw [hcount]
    norm_num [StateEstimation.ADIS_RLSB]
  rw [demand, pidController_eq, estimated, estimate,
    StateEstimation.stateReceiveImu_launched hlaunched, hstep]
  simp only [StateEstimation.integrate, hrate]
  norm_num [climbing, RollServo.transonic, rollcontrolInit, setArmed, setServoEnable, Kp, Ki]

/-- A roll of 20 degrees a second asks for 100 degrees per second squared. -/
theorem fins_meet_demand_climbing :
    ∃ c ∈ (step RollServo.realLibm climbing
        (.imu (toPsasTime ⟨0, 0⟩ ⟨3, 0⟩) (rollSample 1 144))).2, c.disable = 0 ∧
      ∃ y₀ y₁,
        subsonicRoll RollServo.realLibm
          (estimated climbing (toPsasTime ⟨0, 0⟩ ⟨3, 0⟩) (rollSample 1 144)) y₀ = 100 ∧
        supersonicRoll RollServo.realLibm
          (estimated climbing (toPsasTime ⟨0, 0⟩ ⟨3, 0⟩) (rollSample 1 144)) y₁ = 100 ∧
        c.angle = clamp (y₀ + (y₁ - y₀) * ((300 - 265) / (330 - 265))) (-15) 15 := by
  obtain ⟨c, hc, hon⟩ := exists_enabled RollServo.realLibm (s := climbing) rfl rfl
    (toPsasTime ⟨0, 0⟩ ⟨3, 0⟩) (rollSample 1 144)
  obtain ⟨hv, hdemand⟩ := estimated_climbing
  have hmixed := (fins_meet_demand RollServo.realLibm_lawful
    (fun x hx => Real.mul_self_sqrt hx) climbing (toPsasTime ⟨0, 0⟩ ⟨3, 0⟩) (rollSample 1 144)
    c hc hon).transonic
  rw [hv, hdemand] at hmixed
  exact ⟨c, hc, hon, hmixed (by norm_num) (by norm_num) (by norm_num)⟩

end Steering
end FlightComputer
