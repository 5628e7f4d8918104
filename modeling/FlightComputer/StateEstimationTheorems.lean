import FlightComputer.StateEstimation
import FlightComputer.TimeTheorems
import Mathlib.Tactic.Linarith

/-!
# State estimation over a run

`stateReceiveImu_eq` says what one IMU sample does: before launch only its time is
remembered, from launch on the estimate is integrated over `timeStep`. So launch is a
function of the samples received, `launchSample`, and the time remembered is that of the last
one (`estimate_invariant`).

The times are readings of a counter that wraps around, and the difference of two of them is
taken as if it did not, with 0 standing for no time at all. `integration_step_iff` says for
which instants the step is the time between them all the same.
-/

namespace FlightComputer
namespace StateEstimation

variable {K : Type} [Field K] [LinearOrder K]

/-! ## What a sample says -/

/-- The decoded time stamp. -/
def stamp (m : Message) : ℕ := fromPsasTime m.timestamp

/-- The count of the vertical accelerometer, decoded from network order. -/
def countX (m : Message) : ℤ := networkInt16 (ADIS16405Data.ofMem m.data).accX

/-- The vertical acceleration. -/
def accel (m : Message) : K := ADIS_GLSB * countX m

/-- The roll rate. -/
def rollRate (m : Message) : K :=
  ADIS_RLSB * networkInt16 (ADIS16405Data.ofMem m.data).gyroX

variable (K) in
/-- A sample large enough to be taken for the launch. -/
def Large (m : Message) : Prop := |accel (K := K) m| > ((40 : ℕ) : K)

instance (m : Message) : Decidable (Large K m) := inferInstanceAs (Decidable (_ > _))

variable (K) in
/-- The sample that is taken for the launch. -/
def launchSample (ms : List Message) : Option Message := ms.find? fun m => Large K m

/-! ## One sample -/

/-- The step a sample is integrated over. -/
def timeStep (m : Message) (s : State K) : K :=
  seconds (stamp m) (if s.lastTime = 0 then stamp m else s.lastTime)

/-- One sample integrated over a step. -/
def integrate (m : Message) (dt time : K) (state : StateData K) : StateData K where
  time := time
  accUp := accel m - 9.81
  velUp := state.velUp + (accel m - 9.81) * dt
  altitude := state.altitude + (state.velUp + (accel m - 9.81) * dt) * dt
  rollRate := -rollRate m
  rollAngle := state.rollAngle + rollRate m * dt

/-- A sample that is, or comes after, the launch. -/
def Launched (m : Message) (s : State K) : Prop := s.hasLaunched = true ∨ Large K m

/-- **One sample.** The estimate is integrated from launch on. -/
theorem stateReceiveImu_launched {m : Message} {s : State K} (h : Launched m s) :
    (stateReceiveImu m s).1 =
      { currentState := integrate m (timeStep m s)
          (seconds (stamp m) (if s.hasLaunched = true then s.launchTime else stamp m))
          s.currentState
        lastTime := stamp m
        hasLaunched := true
        launchTime := if s.hasLaunched = true then s.launchTime else stamp m } := by
  obtain ⟨current, last, launched, launch⟩ := s
  unfold stateReceiveImu timeStep
  cases launched with
  | true =>
    by_cases h0 : last = 0
    · simp only [h0, not_true_eq_false, false_and, if_false, if_true]
      rfl
    · simp only [h0, not_true_eq_false, false_and, if_false, if_true]
      rfl
  | false =>
    have hlarge : Large K m := h.resolve_left (by simp)
    simp only [Large, accel, countX, Nat.cast_ofNat] at hlarge
    by_cases h0 : last = 0
    · simp only [h0, hlarge, Bool.false_eq_true, not_false_eq_true, and_self, if_false, if_true]
      rfl
    · simp only [h0, hlarge, Bool.false_eq_true, not_false_eq_true, and_self, if_false, if_true]
      rfl

/-- Before launch only the time is remembered. -/
theorem stateReceiveImu_of_not_launched {m : Message} {s : State K} (h : ¬Launched m s) :
    (stateReceiveImu m s).1 = { s with lastTime := stamp m } := by
  obtain ⟨current, last, launched, launch⟩ := s
  have hl : launched = false := Bool.eq_false_iff.mpr fun hc => h (Or.inl hc)
  have hsmall : ¬Large K m := fun hc => h (Or.inr hc)
  simp only [Large, accel, countX, Nat.cast_ofNat] at hsmall
  subst hl
  unfold stateReceiveImu
  by_cases h0 : last = 0
  · simp only [h0, hsmall, and_false, if_false, if_true]
    rfl
  · simp only [h0, hsmall, and_false, if_false]
    rfl

/-- Every sample is remembered. -/
theorem stateReceiveImu_lastTime (m : Message) (s : State K) :
    (stateReceiveImu m s).1.lastTime = stamp m := rfl

/-! ## The history -/

/-- What the launch and the time remembered say about the samples received. -/
structure EstimateInv (ms : List Message) (s : State K) : Prop where
  lastTime : s.lastTime = ((ms.getLast?).map stamp).getD 0
  hasLaunched : s.hasLaunched = true ↔ (launchSample K ms).isSome = true
  launchTime : ∀ launch ∈ launchSample K ms, s.launchTime = stamp launch

/-- A sample is the launch if it is large and none was before. -/
theorem launchSample_snoc (ms : List Message) (m : Message) :
    launchSample K (ms ++ [m]) =
      (launchSample K ms).or (if Large K m then some m else none) := by
  unfold launchSample
  rw [List.find?_append, List.find?_singleton]
  simp only [decide_eq_true_eq]

/-- One more sample keeps the state in step with the history. -/
theorem estimateInv_step {ms : List Message} {s : State K} (h : EstimateInv ms s) (m : Message) :
    EstimateInv (ms ++ [m]) (stateReceiveImu m s).1 := by
  have hlast : (((ms ++ [m]).getLast?).map stamp).getD 0 = stamp m := by
    rw [List.getLast?_concat]
    rfl
  by_cases hlaunched : Launched m s
  · rw [stateReceiveImu_launched hlaunched]
    cases hbefore : launchSample K ms with
    | some launch =>
      -- the launch stays the first large sample
      have hl : s.hasLaunched = true := h.hasLaunched.mpr (by rw [hbefore]; rfl)
      have hsame : launchSample K (ms ++ [m]) = some launch := by
        rw [launchSample_snoc, hbefore, Option.some_or]
      refine ⟨hlast.symm, iff_of_true rfl (by rw [hsame]; rfl), ?_⟩
      intro launch' hlaunch'
      rw [hsame] at hlaunch'
      rw [← Option.some.inj hlaunch', if_pos hl]
      exact h.launchTime launch hbefore
    | none =>
      have hl : ¬s.hasLaunched = true := by
        intro hc
        have hsome := h.hasLaunched.mp hc
        rw [hbefore] at hsome
        cases hsome
      have hnew : launchSample K (ms ++ [m]) = some m := by
        rw [launchSample_snoc, hbefore, Option.none_or, if_pos (hlaunched.resolve_left hl)]
      refine ⟨hlast.symm, iff_of_true rfl (by rw [hnew]; rfl), ?_⟩
      intro launch' hlaunch'
      rw [hnew] at hlaunch'
      rw [← Option.some.inj hlaunch', if_neg hl]
  · rw [stateReceiveImu_of_not_launched hlaunched]
    have hsmall : ¬Large K m := fun hc => hlaunched (Or.inr hc)
    have hsame : launchSample K (ms ++ [m]) = launchSample K ms := by
      rw [launchSample_snoc, if_neg hsmall, Option.or_none]
    refine ⟨hlast.symm, ?_, ?_⟩
    · rw [hsame]
      exact h.hasLaunched
    · rw [hsame]
      exact h.launchTime

/-- In every reachable state, the launch is the first large sample, and the time remembered is
that of the last one. -/
theorem estimate_invariant (ms : List Message) :
    EstimateInv ms ((machine (K := K)).run ms) := by
  refine machine.run_invariant (P := EstimateInv) ⟨rfl, ?_, ?_⟩
    (fun ms m h => estimateInv_step h m) ms
  · simp [machine, stateInit, launchSample]
  · simp [launchSample]

/-- From the launch sample on, the estimate is integrated sample by sample. -/
theorem currentState_snoc {ms : List Message} {m launch : Message}
    (h : launchSample K (ms ++ [m]) = some launch) :
    (machine.run (ms ++ [m])).currentState =
      integrate m (timeStep m (machine.run ms)) (seconds (stamp m) (stamp launch))
        ((machine (K := K)).run ms).currentState := by
  have hinv := estimate_invariant (K := K) (ms ++ [m])
  have htime := hinv.launchTime launch h
  have hl := hinv.hasLaunched.mpr (by rw [h]; rfl)
  rw [machine.run_snoc] at htime hl ⊢
  change (stateReceiveImu m _).1.launchTime = _ at htime
  change (stateReceiveImu m _).1.hasLaunched = true at hl
  show (stateReceiveImu m _).1.currentState = _
  have hlaunched : Launched m ((machine (K := K)).run ms) := by
    by_contra hno
    rw [stateReceiveImu_of_not_launched hno] at hl
    exact hno (Or.inl hl)
  rw [stateReceiveImu_launched hlaunched] at htime ⊢
  rw [← htime]

/-! ## The step in real time -/

variable [IsStrictOrderedRing K]

/-- The difference of two times in seconds, if it is one of nanoseconds. -/
theorem seconds_eq_iff (later earlier : ℕ) (d : ℤ) :
    (seconds later earlier : K) = d / 10 ^ 9 ↔
      (((later + 2 ^ 64 - earlier) % 2 ^ 64 : ℕ) : ℤ) = d := by
  have hne : (10 ^ 9 : K) ≠ 0 := by positivity
  have hlit : (1.0e9 : K) = 10 ^ 9 := by norm_num
  unfold seconds
  rw [hlit, div_left_inj' hne, ← Int.cast_natCast, Int.cast_inj]

/-- The difference of two readings of the clock is the time between them exactly when the
clock did not wrap around in between. -/
theorem seconds_stamps_iff {starttime ts₁ ts₂ : Timespec}
    (hle : ts₁.nanoseconds ≤ ts₂.nanoseconds)
    (hlt : ts₂.nanoseconds - ts₁.nanoseconds < 2 ^ 48) :
    (seconds (fromPsasTime (toPsasTime starttime ts₂)) (fromPsasTime (toPsasTime starttime ts₁))
        : K) = ((ts₂.nanoseconds - ts₁.nanoseconds : ℤ) : K) / 10 ^ 9 ↔
      (ts₁.nanoseconds - starttime.nanoseconds) % 2 ^ 48
        + (ts₂.nanoseconds - ts₁.nanoseconds) < 2 ^ 48 := by
  have hlt₁ := fromPsasTime_lt (toPsasTime starttime ts₁)
  obtain ⟨hstart, hlater⟩ := fromPsasTime_later starttime hle hlt
  rw [seconds_eq_iff, ← hstart]
  omega

/-- **The integration step in real time.** For a sample received at `ts₂`, after one received
at `ts₁` and a launch at `tsL`, the estimate is integrated over `timeStep`. That step is the
time between the two samples, and the time of the estimate that since launch, exactly when
the 48-bit counter does not wrap around in between, and does not show 0 at `ts₁` unless the
two samples are received at once. -/
theorem integration_step_iff (ms : List Message) (m₁ m₂ launch : Message)
    (hlaunch : launchSample K (ms ++ [m₁] ++ [m₂]) = some launch)
    (starttime ts₁ ts₂ tsL : Timespec) (hstamp₁ : m₁.timestamp = toPsasTime starttime ts₁)
    (hstamp₂ : m₂.timestamp = toPsasTime starttime ts₂)
    (hstampL : launch.timestamp = toPsasTime starttime tsL)
    (hle : ts₁.nanoseconds ≤ ts₂.nanoseconds)
    (hlt : ts₂.nanoseconds - ts₁.nanoseconds < 2 ^ 48)
    (hleL : tsL.nanoseconds ≤ ts₂.nanoseconds) :
    (machine.run (ms ++ [m₁] ++ [m₂])).currentState =
        integrate m₂ (timeStep m₂ (machine.run (ms ++ [m₁])))
          (machine.run (ms ++ [m₁] ++ [m₂])).currentState.time
          ((machine (K := K)).run (ms ++ [m₁])).currentState ∧
      (timeStep m₂ ((machine (K := K)).run (ms ++ [m₁])) =
            ((ts₂.nanoseconds - ts₁.nanoseconds : ℤ) : K) / 10 ^ 9 ∧
          (ts₂.nanoseconds - tsL.nanoseconds < 2 ^ 48 →
            ((machine (K := K)).run (ms ++ [m₁] ++ [m₂])).currentState.time =
              ((ts₂.nanoseconds - tsL.nanoseconds : ℤ) : K) / 10 ^ 9) ↔
        (ts₁.nanoseconds - starttime.nanoseconds) % 2 ^ 48
            + (ts₂.nanoseconds - ts₁.nanoseconds) < 2 ^ 48 ∧
          ((ts₁.nanoseconds - starttime.nanoseconds) % 2 ^ 48 ≠ 0 ∨
            ts₁.nanoseconds = ts₂.nanoseconds) ∧
          (ts₂.nanoseconds - tsL.nanoseconds < 2 ^ 48 →
            (tsL.nanoseconds - starttime.nanoseconds) % 2 ^ 48
              + (ts₂.nanoseconds - tsL.nanoseconds) < 2 ^ 48)) := by
  have hstate := currentState_snoc (K := K) hlaunch
  have hlast : ((machine (K := K)).run (ms ++ [m₁])).lastTime =
      fromPsasTime (toPsasTime starttime ts₁) := by
    rw [← hstamp₁, machine.run_snoc]
    exact stateReceiveImu_lastTime m₁ _
  have hstep : timeStep m₂ ((machine (K := K)).run (ms ++ [m₁])) =
        ((ts₂.nanoseconds - ts₁.nanoseconds : ℤ) : K) / 10 ^ 9 ↔
      (ts₁.nanoseconds - starttime.nanoseconds) % 2 ^ 48
          + (ts₂.nanoseconds - ts₁.nanoseconds) < 2 ^ 48 ∧
        ((ts₁.nanoseconds - starttime.nanoseconds) % 2 ^ 48 ≠ 0 ∨
          ts₁.nanoseconds = ts₂.nanoseconds) := by
    have hzero : (fromPsasTime (toPsasTime starttime ts₁) : ℤ) =
        (ts₁.nanoseconds - starttime.nanoseconds) % 2 ^ 48 := by
      rw [fromPsasTime_toPsasTime, cast_reading (by norm_num [psasPeriod])]
      rfl
    unfold timeStep stamp
    rw [hlast, hstamp₂]
    by_cases h0 : fromPsasTime (toPsasTime starttime ts₁) = 0
    · -- no sample is remembered, and the step is 0
      rw [if_pos h0, seconds_eq_iff]
      omega
    · rw [if_neg h0, seconds_stamps_iff hle hlt]
      omega
  have htime : ts₂.nanoseconds - tsL.nanoseconds < 2 ^ 48 →
      (((machine (K := K)).run (ms ++ [m₁] ++ [m₂])).currentState.time =
          ((ts₂.nanoseconds - tsL.nanoseconds : ℤ) : K) / 10 ^ 9 ↔
        (tsL.nanoseconds - starttime.nanoseconds) % 2 ^ 48
          + (ts₂.nanoseconds - tsL.nanoseconds) < 2 ^ 48) := by
    intro hltL
    rw [hstate]
    show seconds (stamp m₂) (stamp launch) = _ ↔ _
    unfold stamp
    rw [hstamp₂, hstampL, seconds_stamps_iff hleL hltL]
  refine ⟨?_, ?_⟩
  · rw [hstate]
    rfl
  · rw [hstep, and_assoc]
    exact and_congr_right fun _ => and_congr_right fun _ => forall_congr' htime

/-- An IMU sample with a count on the vertical accelerometer. -/
def imuSample (timestamp : Timestamp) (high low : UInt8) : Message where
  ID := messageID 'A' 'D' 'I' 'S'
  timestamp := timestamp
  dataLength := .ofNat sizeofADIS16405Data
  data := List.replicate 8 0 ++ [high, low] ++ List.replicate 14 0

theorem integration_step_millisecond :
    timeStep (imuSample (toPsasTime ⟨0, 0⟩ ⟨1, 1000000⟩) 0 0) ((machine (K := ℚ)).run
        [imuSample (toPsasTime ⟨0, 0⟩ ⟨1, 0⟩) 127 255]) = 1 / 1000 := by
  have h := ((integration_step_iff (K := ℚ) [] (imuSample (toPsasTime ⟨0, 0⟩ ⟨1, 0⟩) 127 255)
    (imuSample (toPsasTime ⟨0, 0⟩ ⟨1, 1000000⟩) 0 0)
    (imuSample (toPsasTime ⟨0, 0⟩ ⟨1, 0⟩) 127 255) (by decide +kernel) ⟨0, 0⟩ ⟨1, 0⟩
    ⟨1, 1000000⟩ ⟨1, 0⟩ rfl rfl rfl (by decide) (by decide) (by decide)).2.mpr (by decide)).1
  rw [List.nil_append] at h
  rw [h]
  norm_num [Timespec.nanoseconds]

theorem integration_step_wrong :
    launchSample ℚ [imuSample (toPsasTime ⟨0, 0⟩ ⟨281474, 976710655⟩) 127 255] =
        some (imuSample (toPsasTime ⟨0, 0⟩ ⟨281474, 976710655⟩) 127 255) ∧
      timeStep (imuSample (toPsasTime ⟨0, 0⟩ ⟨281474, 977710655⟩) 0 0) ((machine (K := ℚ)).run
        [imuSample (toPsasTime ⟨0, 0⟩ ⟨281474, 976710655⟩) 127 255]) ≠ 1 / 1000 ∧
      timeStep (imuSample (toPsasTime ⟨0, 0⟩ ⟨0, 1000000⟩) 0 0) ((machine (K := ℚ)).run
        [imuSample (toPsasTime ⟨0, 0⟩ ⟨0, 0⟩) 127 255]) = 0 := by
  decide +kernel

/-! ## A rocket at rest -/

/-- The time a run of samples is integrated over, step by step. -/
def elapsed : State K → List Message → K
  | _, [] => 0
  | s, m :: ms => timeStep m s + elapsed (stateReceiveImu m s).1 ms

/-- A sample that `arm.c` takes for a rocket standing at rest: -1g, give or take 0.1g. -/
def AtRest (m : Message) : Prop := |(countX m : K) * 0.00333 - (-1)| ≤ 0.1

/-- What the vertical acceleration of a rocket at rest may deviate from zero. -/
def restBound : K := 0.1 * EARTHG + 0.02

omit [IsStrictOrderedRing K] in
theorem stateReceiveImu_of_hasLaunched (m : Message) {s : State K} (h : s.hasLaunched = true) :
    (stateReceiveImu m s).1.hasLaunched = true ∧
      (stateReceiveImu m s).1.currentState.accUp = accel m - 9.81 ∧
      (stateReceiveImu m s).1.currentState.velUp =
        s.currentState.velUp + (accel m - 9.81) * timeStep m s := by
  rw [stateReceiveImu_launched (Or.inl h)]
  exact ⟨rfl, rfl, rfl⟩

theorem timeStep_nonneg (m : Message) (s : State K) : 0 ≤ timeStep m s := by
  unfold timeStep seconds
  positivity

/-- At rest, the sensor's -1g and the gravity subtracted from it add up. -/
theorem accUp_of_atRest {m : Message} (h : AtRest (K := K) m) :
    -(1.1 * EARTHG + 9.81 : K) ≤ accel m - 9.81 ∧ accel m - 9.81 ≤ -(0.9 * EARTHG + 9.81 : K) := by
  obtain ⟨hge, hle⟩ := abs_le.mp h
  have hscale : (accel m : K) = EARTHG * ((countX m : K) * 0.00333) := by
    unfold accel ADIS_GLSB
    ring
  have hpos : (0 : K) ≤ EARTHG := by unfold EARTHG; norm_num
  have hlow : -1.1 ≤ (countX m : K) * 0.00333 := by linarith
  have hhigh : (countX m : K) * 0.00333 ≤ -0.9 := by linarith
  have hmul := mul_le_mul_of_nonneg_left hlow hpos
  have hmul' := mul_le_mul_of_nonneg_left hhigh hpos
  rw [hscale]
  exact ⟨by linarith, by linarith⟩

/-- The velocity falls by about 2g over every step. -/
theorem velUp_of_atRest {s : State K} (hl : s.hasLaunched = true) {ms : List Message}
    (hrest : ∀ m ∈ ms, AtRest (K := K) m) :
    s.currentState.velUp - (1.1 * EARTHG + 9.81) * elapsed s ms ≤
        (machine.after s ms).currentState.velUp ∧
      (machine.after s ms).currentState.velUp ≤
        s.currentState.velUp - (0.9 * EARTHG + 9.81) * elapsed s ms ∧
      0 ≤ elapsed s ms := by
  induction ms generalizing s with
  | nil => simp [elapsed]
  | cons m ms ih =>
    obtain ⟨hl', -, hvel⟩ := stateReceiveImu_of_hasLaunched m hl
    obtain ⟨hge, hle, hnonneg⟩ := ih hl' fun m' hm' => hrest m' (List.mem_cons_of_mem m hm')
    have hstep := timeStep_nonneg m s
    obtain ⟨hlow, hhigh⟩ := accUp_of_atRest (hrest m List.mem_cons_self)
    have hmul := mul_le_mul_of_nonneg_right hlow hstep
    have hmul' := mul_le_mul_of_nonneg_right hhigh hstep
    rw [hvel] at hge hle
    change _ ≤ (machine.after (stateReceiveImu m s).1 ms).currentState.velUp ∧
      (machine.after (stateReceiveImu m s).1 ms).currentState.velUp ≤ _ ∧ _
    unfold elapsed
    exact ⟨by linarith, by linarith, by linarith⟩

/-- As long as the times are positive and do not go back, the steps add up to the time
between the first and the last of them. -/
theorem elapsed_eq {s : State K} {ms : List Message} (hpos : 0 < s.lastTime)
    (hlt : s.lastTime < 2 ^ 48) (htimes : (s.lastTime :: ms.map stamp).Pairwise (· ≤ ·)) :
    elapsed s ms = (((machine.after s ms).lastTime : K) - s.lastTime) / 10 ^ 9 := by
  induction ms generalizing s with
  | nil => simp [elapsed]
  | cons m ms ih =>
    rw [List.map_cons] at htimes
    obtain ⟨hfirst, hrest⟩ := List.pairwise_cons.mp htimes
    have hle : s.lastTime ≤ stamp m := hfirst _ List.mem_cons_self
    have hstamp : stamp m < 2 ^ 48 := fromPsasTime_lt m.timestamp
    have hstep : timeStep m s = (((stamp m : ℤ) - s.lastTime : ℤ) : K) / 10 ^ 9 := by
      unfold timeStep
      rw [if_neg (by omega), seconds_eq_iff]
      omega
    have hlast := stateReceiveImu_lastTime m s
    have hnext := ih (s := (stateReceiveImu m s).1) (by omega) (by omega) (by rwa [hlast])
    have hafter : machine.after s (m :: ms) = machine.after (stateReceiveImu m s).1 ms := rfl
    unfold elapsed
    rw [hstep, hnext, hlast, hafter]
    push_cast
    ring

/-- **The estimate of a rocket at rest.** After launch, samples that `arm.c` takes for a
rocket at rest never give a vertical acceleration within `restBound` of zero, and change the
velocity by more than `restBound` allows in every time there is. -/
theorem estimate_at_rest_iff (pre ms : List Message)
    (hl : ((machine (K := K)).run pre).hasLaunched = true)
    (hrest : ∀ m ∈ ms, AtRest (K := K) m) :
    ((∀ ms₁ m ms₂, ms = ms₁ ++ m :: ms₂ →
          |((machine (K := K)).run (pre ++ (ms₁ ++ [m]))).currentState.accUp| ≤ restBound) ∧
        |((machine (K := K)).run (pre ++ ms)).currentState.velUp
            - (machine.run pre).currentState.velUp| ≤
          restBound * elapsed (machine.run pre) ms ↔ ms = []) ∧
      (|((machine (K := K)).run (pre ++ ms)).currentState.velUp
            - (machine.run pre).currentState.velUp| ≤
          restBound * elapsed (machine.run pre) ms ↔
        elapsed ((machine (K := K)).run pre) ms = 0) ∧
      (0 < ((machine (K := K)).run pre).lastTime →
        (((machine (K := K)).run pre).lastTime :: ms.map stamp).Pairwise (· ≤ ·) →
        elapsed ((machine (K := K)).run pre) ms =
          (((machine (K := K)).run (pre ++ ms)).lastTime
            - ((machine (K := K)).run pre).lastTime : K) / 10 ^ 9) := by
  obtain ⟨hge, hle, hnonneg⟩ := velUp_of_atRest hl hrest
  rw [← machine.run_append] at hge hle
  have hbound : (restBound : K) < 0.9 * EARTHG + 9.81 := by
    unfold restBound EARTHG
    norm_num
  have hpos : (0 : K) < restBound := by
    unfold restBound EARTHG
    norm_num
  refine ⟨⟨?_, ?_⟩, ⟨?_, ?_⟩, ?_⟩
  · -- the first sample is already out of bounds
    rintro ⟨hacc, -⟩
    by_contra hne
    obtain ⟨m, ms', rfl⟩ := List.exists_cons_of_ne_nil hne
    have hfirst := hacc [] m ms' rfl
    have hfall := (accUp_of_atRest (hrest m List.mem_cons_self)).2
    rw [List.nil_append, machine.run_snoc] at hfirst
    change |(stateReceiveImu m _).1.currentState.accUp| ≤ _ at hfirst
    rw [(stateReceiveImu_of_hasLaunched m hl).2.1] at hfirst
    have hwithin := (abs_le.mp hfirst).1
    linarith
  · rintro rfl
    refine ⟨fun ms₁ m ms₂ h => by simp at h, ?_⟩
    rw [List.append_nil, sub_self, abs_zero, elapsed, mul_zero]
  · intro h
    have hwithin := (abs_le.mp h).1
    by_contra hne
    have hsome : 0 < elapsed ((machine (K := K)).run pre) ms := lt_of_le_of_ne hnonneg (Ne.symm hne)
    have hmul := mul_lt_mul_of_pos_right hbound hsome
    linarith
  · intro h0
    rw [h0, mul_zero, sub_zero] at hge hle
    rw [h0, mul_zero, le_antisymm hle hge, sub_self, abs_zero]
  · intro hlast htimes
    have hlt : ((machine (K := K)).run pre).lastTime < 2 ^ 48 := by
      have hinv := (estimate_invariant (K := K) pre).lastTime
      rw [hinv]
      cases hpre : pre.getLast? with
      | none => simp
      | some m => exact fromPsasTime_lt m.timestamp
    rw [elapsed_eq hlast hlt htimes, machine.run_append]

/-- One sample at rest, a second after launch: the velocity changes too much. -/
theorem estimate_at_rest_one :
    ¬|((machine (K := ℚ)).run ([imuSample (toPsasTime ⟨0, 0⟩ ⟨1, 0⟩) 127 255] ++
          [imuSample (toPsasTime ⟨0, 0⟩ ⟨2, 0⟩) 0xFE 0xD4])).currentState.velUp
        - (machine.run [imuSample (toPsasTime ⟨0, 0⟩ ⟨1, 0⟩) 127 255]).currentState.velUp| ≤
      restBound * elapsed (machine.run [imuSample (toPsasTime ⟨0, 0⟩ ⟨1, 0⟩) 127 255])
        [imuSample (toPsasTime ⟨0, 0⟩ ⟨2, 0⟩) 0xFE 0xD4] := by
  have hrest : AtRest (K := ℚ) (imuSample (toPsasTime ⟨0, 0⟩ ⟨2, 0⟩) 0xFE 0xD4) := by
    unfold AtRest
    decide +kernel
  intro h
  have hzero := (estimate_at_rest_iff (K := ℚ) [imuSample (toPsasTime ⟨0, 0⟩ ⟨1, 0⟩) 127 255]
    [imuSample (toPsasTime ⟨0, 0⟩ ⟨2, 0⟩) 0xFE 0xD4] (by decide +kernel)
    (by simpa using hrest)).2.1.mp h
  revert hzero
  decide +kernel

/-- A count of -300 a second after launch: -1g at rest, and more than 19 m/s². -/
theorem estimate_at_rest_falls :
    |(countX (imuSample (toPsasTime ⟨0, 0⟩ ⟨2, 0⟩) 0xFE 0xD4) : ℚ) * 0.00333 - (-1)| ≤ 0.1 ∧
      ¬|((machine (K := ℚ)).run [imuSample (toPsasTime ⟨0, 0⟩ ⟨1, 0⟩) 127 255,
        imuSample (toPsasTime ⟨0, 0⟩ ⟨2, 0⟩) 0xFE 0xD4]).currentState.accUp| ≤ restBound := by
  decide +kernel

end StateEstimation
end FlightComputer
