import FlightComputer.RollControlTheorems
import FlightComputer.RollServo
import FlightComputer.Utils.Response
import Mathlib.Algebra.Order.Archimedean.Real.Basic
import Mathlib.Algebra.Order.Floor.Semiring
import Mathlib.Analysis.Complex.Exponential
import Mathlib.Analysis.Real.Sqrt
import Mathlib.Tactic.NormNum
import Mathlib.Tactic.Positivity

/-!
# From a correction to the pulse of the servo

For a state that moves up, `estimateAlpha` is the odd law (`signed`) of a response, `finAngle`:
each speed regime responds to a larger correction with no smaller angle, and so does the
regime between them, which mixes the other two with weights. Clamping, the affine map to
ticks and the truncation to 16 bits are monotone too, so the whole path is.
-/

namespace FlightComputer

variable {K : Type} [Field K] [LinearOrder K]

/-- What the control law relies on of `math.h`. -/
structure Libm.Lawful (libm : Libm K) : Prop where
  exp_pos : ∀ x, 0 < libm.exp x
  sqrt_mono : ∀ x y, 0 ≤ x → x ≤ y → libm.sqrt x ≤ libm.sqrt y
  sqrt_fit : libm.sqrt (RollControl.FINFIT_B * RollControl.FINFIT_B) = RollControl.FINFIT_B
  M_PI_pos : 0 < libm.M_PI

namespace RollControl

/-! ## The parts of the law -/

/-- The moment of inertia. -/
def inertia (time : K) : K :=
  if time < EXPECTED_BURN_TIME then I_INIT + (I_BO - I_INIT) * (time / EXPECTED_BURN_TIME)
  else I_BO

/-- The density of the air. -/
def airDensity (libm : Libm K) (altitude : K) : K :=
  1.2250 * libm.exp ((-9.80665 * 0.0289644 * altitude) / (8.31432 * 288.15))

/-- The angle of the canard for a correction, in radians, of a size. -/
def finAngle (libm : Libm K) (state : StateData K) (aa : K) : K :=
  let I := inertia state.time
  let rd := airDensity libm state.altitude
  if state.velUp ≤ SUBSONIC then subsonicFin libm aa I rd state
  else if state.velUp < SUPERSONIC then
    subsonicFin libm aa I rd state +
      (supersonicFin libm aa I rd state - subsonicFin libm aa I rd state) *
        (state.velUp - SUBSONIC) / (SUPERSONIC - SUBSONIC)
  else supersonicFin libm aa I rd state

variable [IsStrictOrderedRing K] {libm : Libm K} {state : StateData K}

theorem inertia_pos (time : K) : 0 < inertia time := by
  unfold inertia
  split_ifs with hburn
  · have hquotient : time / EXPECTED_BURN_TIME < 1 := by
      rw [div_lt_one (by norm_num [EXPECTED_BURN_TIME])]
      exact hburn
    unfold I_INIT I_BO
    norm_num
    linarith
  · norm_num [I_BO]

theorem airDensity_pos (h : libm.Lawful) (altitude : K) : 0 < airDensity libm altitude :=
  mul_pos (by norm_num) (h.exp_pos _)

/-! ## The response of each regime -/

theorem FINFIT_A_pos : (0 : K) < FINFIT_A := by norm_num [FINFIT_A]

theorem lift_pos {rd v : K} (hrd : 0 < rd) (hv : 1 ≤ v) :
    0 < rd * v * v * FIN_AREA * FIN_ARM := by
  have hvpos : 0 < v := by linarith
  have harea : (0 : K) < FIN_AREA := by norm_num [FIN_AREA]
  have harm : (0 : K) < FIN_ARM := by norm_num [FIN_ARM]
  positivity

theorem supersonic_lift_pos {rd v : K} (hrd : 0 < rd) (hv : 1 ≤ v) :
    0 < 2 * rd * v * v * FIN_AREA * FIN_ARM * FIN_CBASE := by
  have hlift := lift_pos hrd hv
  have hbase : (0 : K) < FIN_CBASE := by norm_num [FIN_CBASE]
  have hsplit : 2 * rd * v * v * FIN_AREA * FIN_ARM * FIN_CBASE =
      2 * (rd * v * v * FIN_AREA * FIN_ARM) * FIN_CBASE := by ring
  rw [hsplit]
  positivity

theorem response_subsonicFin (h : libm.Lawful) {I rd : K} (hI : 0 < I) (hrd : 0 < rd)
    (hv : 1 ≤ state.velUp) : Response fun aa => subsonicFin libm aa I rd state := by
  have hlift := lift_pos hrd hv
  have hA := FINFIT_A_pos (K := K)
  have hsquare : (0 : K) ≤ FINFIT_B * FINFIT_B := mul_self_nonneg _
  have hnonneg : ∀ x : K, 0 ≤ |2 * x * I * FINFIT_A| /
      (rd * state.velUp * state.velUp * FIN_AREA * FIN_ARM) :=
    fun x => div_nonneg (abs_nonneg _) hlift.le
  refine ⟨fun {x} hx => ?_, fun {x y} hx hxy => ?_⟩
  · have hroot := h.sqrt_mono _ (|2 * x * I * FINFIT_A| /
      (rd * state.velUp * state.velUp * FIN_AREA * FIN_ARM) + FINFIT_B * FINFIT_B) hsquare
      (le_add_of_nonneg_left (hnonneg x))
    rw [h.sqrt_fit] at hroot
    exact div_nonneg (sub_nonneg.mpr hroot) (by linarith)
  · have habs : |2 * x * I * FINFIT_A| ≤ |2 * y * I * FINFIT_A| := by
      have hy : 0 ≤ y := hx.trans hxy
      rw [abs_of_nonneg (by positivity), abs_of_nonneg (by positivity)]
      gcongr
    have hroot := h.sqrt_mono _ _ (add_nonneg (hnonneg x) hsquare)
      (add_le_add_left (div_le_div_of_nonneg_right habs hlift.le) (FINFIT_B * FINFIT_B))
    exact div_le_div_of_nonneg_right (sub_le_sub_right hroot FINFIT_B) (by linarith)

theorem response_supersonicFin (h : libm.Lawful) {I rd : K} (hI : 0 < I) (hrd : 0 < rd)
    (hv : 1 ≤ state.velUp) : Response fun aa => supersonicFin libm aa I rd state := by
  have hlift := supersonic_lift_pos hrd hv
  have hpi := h.M_PI_pos
  have hdegrees : (0 : K) ≤ 180.0 := by norm_num
  have hfactor : ∀ aa, supersonicFin libm aa I rd state = aa * (I /
      (2 * rd * state.velUp * state.velUp * FIN_AREA * FIN_ARM * FIN_CBASE) *
        180.0 / libm.M_PI) := fun aa => by
    rw [supersonicFin, radiansToDegrees, mul_div_assoc aa, mul_assoc aa, mul_div_assoc aa]
  simp only [hfactor]
  exact .proportional (div_nonneg (mul_nonneg (div_nonneg hI.le hlift.le) hdegrees) hpi.le)

theorem response_finAngle (h : libm.Lawful) (hv : 1 ≤ state.velUp) :
    Response (finAngle libm state) := by
  have hsub := response_subsonicFin h (inertia_pos state.time)
    (airDensity_pos h state.altitude) hv
  have hsuper := response_supersonicFin h (inertia_pos state.time)
    (airDensity_pos h state.altitude) hv
  unfold finAngle
  by_cases hslow : state.velUp ≤ SUBSONIC
  · simpa only [if_pos hslow] using hsub
  · by_cases hmedium : state.velUp < SUPERSONIC
    · simp only [if_neg hslow, if_pos hmedium, mul_div_assoc]
      have hspan : (0 : K) < SUPERSONIC - SUBSONIC := by norm_num [SUPERSONIC, SUBSONIC]
      refine hsub.blend hsuper (div_nonneg (by linarith) hspan.le) ?_
      rw [div_le_one hspan]
      linarith
    · simpa only [if_neg hslow, if_neg hmedium] using hsuper

/-- **The law.** Moving up, `estimate_alpha` is the odd law of `finAngle` with a dead band. -/
theorem estimateAlpha_eq (h : libm.Lawful) (hv : 1 ≤ state.velUp) (c : K) :
    estimateAlpha libm c state =
      signed 1 (fun size => finAngle libm state (size * (libm.M_PI / 180.0))) c := by
  have hpi : 0 ≤ libm.M_PI / 180.0 := div_nonneg h.M_PI_pos.le (by norm_num)
  have hradians : |degreesToRadians libm c| = |c| * (libm.M_PI / 180.0) := by
    rw [degreesToRadians, mul_div_assoc, abs_mul, abs_of_nonneg hpi]
  unfold estimateAlpha signed
  by_cases hband : |c| < 1
  · rw [if_pos (Or.inl hband), if_pos hband]
  · rw [if_neg (not_or.mpr ⟨hband, not_lt.mpr hv⟩), if_neg hband, hradians]
    rfl

omit [IsStrictOrderedRing K] in
/-- Not moving up, there is no correction. -/
theorem estimateAlpha_of_slow (libm : Libm K) (hv : state.velUp < 1) (c : K) :
    estimateAlpha libm c state = 0 := if_pos (Or.inr hv)

/-! ## No division by zero -/

omit [IsStrictOrderedRing K] in
theorem checkedDiv_of_ne {a b : K} (h : b ≠ 0) : checkedDiv a b = some (a / b) := if_neg h

theorem subsonicFinChecked_eq (setAaRad I : K) {rd : K} (hrd : 0 < rd) (hv : 1 ≤ state.velUp) :
    subsonicFinChecked libm setAaRad I rd state = some (subsonicFin libm setAaRad I rd state) := by
  have hA := FINFIT_A_pos (K := K)
  have hA2 : (2 * FINFIT_A : K) ≠ 0 := by positivity
  unfold subsonicFinChecked
  dsimp only
  rw [checkedDiv_of_ne (lift_pos hrd hv).ne']
  exact checkedDiv_of_ne hA2

theorem supersonicFinChecked_eq (h : libm.Lawful) (setAaRad I : K) {rd : K} (hrd : 0 < rd)
    (hv : 1 ≤ state.velUp) :
    supersonicFinChecked libm setAaRad I rd state =
      some (supersonicFin libm setAaRad I rd state) := by
  unfold supersonicFinChecked
  dsimp only
  rw [checkedDiv_of_ne (supersonic_lift_pos hrd hv).ne']
  exact checkedDiv_of_ne h.M_PI_pos.ne'

theorem inertiaChecked_eq (time : K) : inertiaChecked time = some (inertia time) := by
  have hburn : (EXPECTED_BURN_TIME : K) ≠ 0 := by norm_num [EXPECTED_BURN_TIME]
  unfold inertiaChecked inertia
  split_ifs
  · rw [checkedDiv_of_ne hburn]
    rfl
  · rfl

theorem airDensityChecked_eq (libm : Libm K) (altitude : K) :
    airDensityChecked libm altitude = some (airDensity libm altitude) := by
  have hscale : (8.31432 * 288.15 : K) ≠ 0 := by norm_num
  rw [airDensityChecked, checkedDiv_of_ne hscale]
  rfl

theorem finAngleChecked_eq (h : libm.Lawful) (aa : K) (hv : 1 ≤ state.velUp) :
    finAngleChecked libm aa (inertia state.time) (airDensity libm state.altitude) state =
      some (finAngle libm state aa) := by
  have hrd := airDensity_pos h state.altitude
  have hspan : (SUPERSONIC - SUBSONIC : K) ≠ 0 := by norm_num [SUPERSONIC, SUBSONIC]
  unfold finAngleChecked finAngle
  dsimp only
  rw [subsonicFinChecked_eq aa _ hrd hv, supersonicFinChecked_eq h aa _ hrd hv]
  split_ifs
  · rfl
  · dsimp only [Option.bind_eq_bind, Option.bind_some]
    rw [checkedDiv_of_ne hspan]
    rfl
  · rfl

/-- **No division by zero.** Every division `estimate_alpha` makes has a quotient. -/
theorem estimateAlphaChecked_eq (h : libm.Lawful) (c : K) (state : StateData K) :
    estimateAlphaChecked libm c state = some (estimateAlpha libm c state) := by
  have hdegrees : (180.0 : K) ≠ 0 := by norm_num
  unfold estimateAlphaChecked estimateAlpha
  by_cases hzero : |c| < 1 ∨ state.velUp < 1
  · rw [if_pos hzero, if_pos hzero]
  · have hv : 1 ≤ state.velUp := not_lt.mp (not_or.mp hzero).2
    rw [if_neg hzero, if_neg hzero, checkedDiv_of_ne hdegrees, inertiaChecked_eq,
      airDensityChecked_eq]
    dsimp only [Option.bind_eq_bind, Option.bind_some]
    rw [finAngleChecked_eq h _ hv]
    rfl

/-! ## Monotone and odd -/

/-- Either the law is zero for every correction, or it is the odd law of a response. -/
theorem estimateAlpha_signed (h : libm.Lawful) (state : StateData K) :
    ∃ g, Response g ∧ ∀ c, estimateAlpha libm c state = signed 1 g c := by
  by_cases hv : 1 ≤ state.velUp
  · have hpi : 0 ≤ libm.M_PI / 180.0 := div_nonneg h.M_PI_pos.le (by norm_num)
    exact ⟨_, (response_finAngle h hv).scale hpi, estimateAlpha_eq h hv⟩
  · refine ⟨fun x => x * 0, .proportional le_rfl, fun c => ?_⟩
    rw [estimateAlpha_of_slow libm (not_le.mp hv)]
    simp [signed]

theorem estimateAlpha_monotone (h : libm.Lawful) (state : StateData K) :
    Monotone fun c => estimateAlpha libm c state := by
  obtain ⟨g, hg, heq⟩ := estimateAlpha_signed h state
  simpa only [heq] using hg.signed_monotone one_pos

theorem estimateAlpha_neg (h : libm.Lawful) (c : K) (state : StateData K) :
    estimateAlpha libm (-c) state = -estimateAlpha libm c state := by
  obtain ⟨g, hg, heq⟩ := estimateAlpha_signed h state
  rw [heq, heq, Response.signed_neg one_pos]

theorem estimateAlpha_nonneg (h : libm.Lawful) {c : K} (hc : 0 ≤ c) (state : StateData K) :
    0 ≤ estimateAlpha libm c state := by
  obtain ⟨g, hg, heq⟩ := estimateAlpha_signed h state
  rw [heq]
  exact hg.signed_nonneg 1 hc

theorem estimateAlpha_nonpos (h : libm.Lawful) {c : K} (hc : c ≤ 0) (state : StateData K) :
    estimateAlpha libm c state ≤ 0 := by
  obtain ⟨g, hg, heq⟩ := estimateAlpha_signed h state
  rw [heq]
  exact hg.signed_nonpos one_pos hc

end RollControl

/-! ## The pulse -/

namespace RollServo

open RollControl

variable [IsStrictOrderedRing K]

/-- The constants: 6721 ticks on either side of the centre for 15 degrees. -/
theorem ticks_affine (angle : K) :
    PWM_TICKS_PER_DEGREE * angle + PWM_TICKS_CENTER = 25202 + 6721 / 15 * angle := by
  have hmax : MAX_SERVO_POSITION_TICKS = 31923 := rfl
  have hmin : MIN_SERVO_POSITION_TICKS = 18481 := rfl
  simp only [PWM_TICKS_CENTER, PWM_TICKS_PER_DEGREE, hmax, hmin, MAX_CANARD_ANGLE,
    MIN_CANARD_ANGLE]
  norm_num
  ring

variable [FloorSemiring K]

theorem uint16OfDouble_eq {x : K} (h0 : 0 ≤ x) (h : x < 65536) :
    ∃ t, uint16OfDouble x = some t ∧ t.toNat = ⌊x⌋₊ := by
  have hfloor : ⌊x⌋₊ < 2 ^ 16 := (Nat.floor_lt h0).mpr (by norm_num; exact h)
  refine ⟨.ofNat ⌊x⌋₊, if_pos ⟨by linarith, h⟩, ?_⟩
  rw [UInt16.toNat_ofNat', Nat.mod_eq_of_lt hfloor]

/-- In the range of the canard the conversion to `uint16_t` is defined and the clamp after it
changes nothing. -/
theorem ticks_eq (adj : ROLLMessage K) (hlo : MIN_CANARD_ANGLE ≤ adj.data.angle)
    (hhi : adj.data.angle ≤ MAX_CANARD_ANGLE) :
    ∃ t, ticks adj = some t ∧ t.toNat = ⌊25202 + 6721 / 15 * adj.data.angle⌋₊ ∧
      18481 ≤ t.toNat ∧ t.toNat ≤ 31923 := by
  have hmin : (-15.0 : K) = -15 := by norm_num
  have hmax : (15.0 : K) = 15 := by norm_num
  rw [MIN_CANARD_ANGLE, hmin] at hlo
  rw [MAX_CANARD_ANGLE, hmax] at hhi
  have hlower : (18481 : K) ≤ 25202 + 6721 / 15 * adj.data.angle := by linarith
  have hupper : 25202 + 6721 / 15 * adj.data.angle ≤ (31923 : K) := by linarith
  obtain ⟨t, ht, hfloor⟩ := uint16OfDouble_eq
    (x := 25202 + 6721 / 15 * adj.data.angle) (by linarith) (by linarith)
  have hge : 18481 ≤ t.toNat := by
    rw [hfloor]
    exact Nat.le_floor (by exact_mod_cast hlower)
  have hle : t.toNat ≤ 31923 := by
    rw [hfloor]
    exact Nat.floor_le_of_le (by exact_mod_cast hupper)
  refine ⟨t, ?_, hfloor, hge, hle⟩
  have hclamp : clamp t.toNat MIN_SERVO_POSITION_TICKS MAX_SERVO_POSITION_TICKS = t.toNat :=
    clamp_eq hge hle
  unfold ticks
  rw [ticks_affine, ht]
  show some (UInt16.ofNat _) = some t
  rw [hclamp, UInt16.ofNat_toNat]

/-- The ticks of each roll message a handler sends. -/
def pulses (outputs : List (Output K)) : List (Option UInt16) := (rolls outputs).map ticks

/-- The ticks for an angle the controller asks for. -/
def pulse (degrees : K) : ℕ :=
  ⌊25202 + 6721 / 15 * clamp degrees MIN_CANARD_ANGLE MAX_CANARD_ANGLE⌋₊

omit [FloorSemiring K] in
theorem canard_range : (MIN_CANARD_ANGLE : K) ≤ MAX_CANARD_ANGLE := by
  norm_num [MIN_CANARD_ANGLE, MAX_CANARD_ANGLE]

theorem pulse_monotone : Monotone (pulse : K → ℕ) := by
  intro degrees degrees' h
  have hclamp := clamp_monotone canard_range h
  dsimp only at hclamp
  apply Nat.floor_mono
  linarith

theorem pulse_zero : pulse (0 : K) = 25202 := by
  rw [pulse, clamp_zero, mul_zero, add_zero]
  exact Nat.floor_ofNat 25202

/-- Whatever else is in the message, its pulse is that of the angle. -/
theorem pulses_setCanardAngle (clock : Timestamp) (degrees : K) (s : State K) :
    ∃ t, pulses (setCanardAngle clock degrees s) = [some t] ∧ t.toNat = pulse degrees ∧
      18481 ≤ t.toNat ∧ t.toNat ≤ 31923 := by
  obtain ⟨m, hrolls, -, hangle⟩ := rolls_setCanardAngle clock degrees s
  obtain ⟨t, ht, hfloor, hrange⟩ := ticks_eq m
    (by rw [hangle]; exact le_clamp degrees canard_range)
    (by rw [hangle]; exact clamp_le degrees canard_range)
  refine ⟨t, ?_, by rw [hfloor, hangle, pulse], hrange⟩
  rw [pulses, hrolls, List.map_singleton, ht]

/-- **From correction to pulse.** For every state: no division by zero, the angle is monotone
and odd in the correction, and the pulse is monotone between its two ends, on the side of the
centre the correction is on. -/
theorem correction_to_pulse {libm : Libm K} (h : libm.Lawful) (state : StateData K) :
    (∀ c, estimateAlphaChecked libm c state = some (estimateAlpha libm c state)) ∧
    (∀ c₁ c₂, c₁ ≤ c₂ → estimateAlpha libm c₁ state ≤ estimateAlpha libm c₂ state) ∧
    (∀ c, estimateAlpha libm (-c) state = -estimateAlpha libm c state) ∧
    ∀ c₁ c₂ clock₁ clock₂ s₁ s₂, c₁ ≤ c₂ → ∃ ticks₁ ticks₂,
      pulses (setCanardAngle clock₁ (estimateAlpha libm c₁ state) s₁) = [some ticks₁] ∧
      pulses (setCanardAngle clock₂ (estimateAlpha libm c₂ state) s₂) = [some ticks₂] ∧
      18481 ≤ ticks₁ ∧ ticks₁ ≤ ticks₂ ∧ ticks₂ ≤ 31923 ∧
      (0 ≤ c₁ → 25202 ≤ ticks₁) ∧ (c₁ ≤ 0 → ticks₁ ≤ 25202) ∧
      (0 ≤ c₂ → 25202 ≤ ticks₂) ∧ (c₂ ≤ 0 → ticks₂ ≤ 25202) := by
  refine ⟨fun c => estimateAlphaChecked_eq h c state,
    fun _ _ hle => estimateAlpha_monotone h state hle, fun c => estimateAlpha_neg h c state,
    fun c₁ c₂ clock₁ clock₂ s₁ s₂ hle => ?_⟩
  obtain ⟨t₁, hsent₁, hpulse₁, hmin, -⟩ :=
    pulses_setCanardAngle clock₁ (estimateAlpha libm c₁ state) s₁
  obtain ⟨t₂, hsent₂, hpulse₂, -, hmax⟩ :=
    pulses_setCanardAngle clock₂ (estimateAlpha libm c₂ state) s₂
  have habove : ∀ c, 0 ≤ c → 25202 ≤ pulse (estimateAlpha libm c state) := fun c hc =>
    pulse_zero.symm.trans_le (pulse_monotone (estimateAlpha_nonneg h hc state))
  have hbelow : ∀ c, c ≤ 0 → pulse (estimateAlpha libm c state) ≤ 25202 := fun c hc =>
    (pulse_monotone (estimateAlpha_nonpos h hc state)).trans_eq pulse_zero
  have hmono : t₁.toNat ≤ t₂.toNat := by
    rw [hpulse₁, hpulse₂]
    exact pulse_monotone (estimateAlpha_monotone h state hle)
  refine ⟨t₁, t₂, hsent₁, hsent₂, ?_⟩
  simp only [UInt16.le_iff_toNat_le]
  refine ⟨hmin, hmono, hmax, fun hc => ?_, fun hc => ?_, fun hc => ?_, fun hc => ?_⟩
  · exact (habove c₁ hc).trans_eq hpulse₁.symm
  · exact hpulse₁.trans_le (hbelow c₁ hc)
  · exact (habove c₂ hc).trans_eq hpulse₂.symm
  · exact hpulse₂.trans_le (hbelow c₂ hc)

/-! ### In real numbers -/

/-- The functions `math.h` computes, up to rounding. -/
noncomputable def realLibm : Libm ℝ :=
  { exp := Real.exp, sqrt := Real.sqrt, M_PI := 3.14159265358979323846 }

theorem realLibm_lawful : realLibm.Lawful where
  exp_pos := Real.exp_pos
  sqrt_mono _ _ _ := Real.sqrt_le_sqrt
  sqrt_fit := Real.sqrt_mul_self (by norm_num [FINFIT_B])
  M_PI_pos := by norm_num [realLibm]

/-- Between the two regimes, and while the motor burns. -/
def transonic : StateData ℝ :=
  { time := 3, accUp := 60, velUp := 300, altitude := 2000, rollRate := 0, rollAngle := 0 }

/-- Corrections to either side turn the fins to either side. -/
theorem correction_to_pulse_transonic :
    (-5 : ℝ) ≤ 5 ∧ ∃ ticks₁ ticks₂,
      pulses (setCanardAngle (toPsasTime ⟨0, 0⟩ ⟨3, 0⟩) (estimateAlpha realLibm (-5) transonic)
        rollcontrolInit) = [some ticks₁] ∧
      pulses (setCanardAngle (toPsasTime ⟨0, 0⟩ ⟨3, 0⟩) (estimateAlpha realLibm 5 transonic)
        rollcontrolInit) = [some ticks₂] ∧
      18481 ≤ ticks₁ ∧ ticks₁ ≤ 25202 ∧ 25202 ≤ ticks₂ ∧ ticks₂ ≤ 31923 := by
  have hle : (-5 : ℝ) ≤ 5 := by norm_num
  obtain ⟨-, -, -, hpulses⟩ := correction_to_pulse realLibm_lawful transonic
  obtain ⟨t₁, t₂, hsent₁, hsent₂, hmin, -, hmax, -, hbelow, habove, -⟩ :=
    hpulses (-5) 5 (toPsasTime ⟨0, 0⟩ ⟨3, 0⟩) (toPsasTime ⟨0, 0⟩ ⟨3, 0⟩)
      rollcontrolInit rollcontrolInit hle
  exact ⟨hle, t₁, t₂, hsent₁, hsent₂, hmin, hbelow (by norm_num), habove (by norm_num), hmax⟩

end RollServo
end FlightComputer
