import FlightComputer.StateEstimationTheorems
import Mathlib.Algebra.Order.BigOperators.Group.LocallyFinite
import Mathlib.Data.List.GetD

/-!
# The estimate as a sum over the samples

`StateEstimationTheorems` follows the estimate from one sample to the next. Here it is given in
closed form: the samples received are indexed, and velocity, altitude and angle are sums over
the samples from the launch on (`estimate`), in which every interval between two samples
counts once. The sums are empty up to the launch, so one invariant covers both parts of a run
(`integral_invariant`).
-/

namespace FlightComputer
namespace StateEstimation

variable {K : Type} [Field K] [LinearOrder K]

/-! ## The samples of a run -/

def timeAt (ms : List Message) (i : ℕ) : ℕ := (ms.map stamp).getD i 0

def accelAt (ms : List Message) (i : ℕ) : K := (ms.map accel).getD i 0

def rollRateAt (ms : List Message) (i : ℕ) : K := (ms.map rollRate).getD i 0

/-- The seconds since the sample before; for the first sample there is none, and the interval
is 0. -/
def interval (ms : List Message) (i : ℕ) : K :=
  ((timeAt ms i : K) - timeAt ms (i - 1)) / 10 ^ 9

variable (K) in
/-- The first sample large enough to be taken for the launch, or the number of samples. -/
def launchIndex (ms : List Message) : ℕ := ms.findIdx fun m => Large K m

/-! ## The integrals -/

/-- The velocity after sample `n`, with the launch at sample `k`. -/
def velocity (ms : List Message) (k n : ℕ) : K :=
  ∑ i ∈ Finset.Icc k n, (accelAt ms i - 9.81) * interval ms i

/-- The estimate after sample `n`, with the launch at sample `k`. -/
def estimate (ms : List Message) (k n : ℕ) : StateData K where
  time := ((timeAt ms n : K) - timeAt ms k) / 10 ^ 9
  accUp := accelAt ms n - 9.81
  velUp := velocity ms k n
  altitude := LAUNCH_ALTITUDE + ∑ i ∈ Finset.Icc k n, velocity ms k i * interval ms i
  rollRate := -rollRateAt ms n
  rollAngle := ∑ i ∈ Finset.Icc k n, rollRateAt ms i * interval ms i

/-! ## One sample of the run -/

theorem timeAt_eq {ms : List Message} {n : ℕ} (h : n < ms.length) : timeAt ms n = stamp ms[n] := by
  rw [timeAt, List.getD_eq_getElem _ _ (by rwa [List.length_map]), List.getElem_map]

omit [LinearOrder K] in
theorem accelAt_eq {ms : List Message} {n : ℕ} (h : n < ms.length) :
    accelAt (K := K) ms n = accel ms[n] := by
  rw [accelAt, List.getD_eq_getElem _ _ (by rwa [List.length_map]), List.getElem_map]

omit [LinearOrder K] in
theorem rollRateAt_eq {ms : List Message} {n : ℕ} (h : n < ms.length) :
    rollRateAt (K := K) ms n = rollRate ms[n] := by
  rw [rollRateAt, List.getD_eq_getElem _ _ (by rwa [List.length_map]), List.getElem_map]

theorem run_take_succ {ms : List Message} {n : ℕ} (h : n < ms.length) :
    (machine (K := K)).run (ms.take (n + 1)) =
      (stateReceiveImu ms[n] (machine.run (ms.take n))).1 := by
  rw [← List.take_append_getElem h, machine.run_snoc]
  rfl

/-- The sample taken for the launch is the one at the launch index. -/
theorem launchSample_eq (ms : List Message) : launchSample K ms = ms[launchIndex K ms]? := by
  unfold launchSample launchIndex
  induction ms with
  | nil => rfl
  | cons m ms ih =>
    by_cases hm : Large K m
    · rw [List.find?_cons_of_pos (by simpa using hm), List.findIdx_cons]
      simp [hm]
    · rw [List.find?_cons_of_neg (by simpa using hm), List.findIdx_cons, ih]
      simp [hm]

/-- Among the first samples, the launch is found once it is one of them. -/
theorem launchSample_take (ms : List Message) (n : ℕ) :
    launchSample K (ms.take n) =
      if launchIndex K ms < n then ms[launchIndex K ms]? else none := by
  have hindex : launchIndex K (ms.take n) = min n (launchIndex K ms) := List.findIdx_take
  rw [launchSample_eq, hindex, List.getElem?_take]
  by_cases hlt : launchIndex K ms < n
  · rw [min_eq_right hlt.le, if_pos hlt]
  · rw [min_eq_left (by omega), if_neg (lt_irrefl n), if_neg hlt]

/-! ## The interval to the last sample -/

/-- The time stamps are positive and do not decrease. -/
structure Timed (ms : List Message) : Prop where
  pos : ∀ m ∈ ms, 0 < stamp m
  le : (ms.map stamp).Pairwise (· ≤ ·)

theorem Timed.stamp_le {ms : List Message} (hms : Timed ms) {i j : ℕ} (hij : i ≤ j)
    (h : j < ms.length) : stamp ms[i] ≤ stamp ms[j] := by
  rcases hij.eq_or_lt with rfl | hlt
  · exact le_refl _
  · have hle := (List.pairwise_iff_getElem.mp hms.le) i j (by rw [List.length_map]; omega)
      (by rwa [List.length_map]) hlt
    rwa [List.getElem_map, List.getElem_map] at hle

/-- The time remembered after the first samples is that of the last of them. -/
theorem lastTime_take {ms : List Message} {n : ℕ} (h : n + 1 ≤ ms.length) :
    ((machine (K := K)).run (ms.take (n + 1))).lastTime = timeAt ms n := by
  rw [run_take_succ h, timeAt_eq h]
  rfl

variable [IsStrictOrderedRing K]

/-- In a timed run, a sample is integrated over the interval from the one before. -/
theorem timeStep_take {ms : List Message} (hms : Timed ms) {n : ℕ} (h : n < ms.length) :
    timeStep ms[n] ((machine (K := K)).run (ms.take n)) = interval ms n := by
  have hstamp : stamp ms[n] < 2 ^ 48 := fromPsasTime_lt ms[n].timestamp
  have hbefore : (if ((machine (K := K)).run (ms.take n)).lastTime = 0 then stamp ms[n]
      else ((machine (K := K)).run (ms.take n)).lastTime) = timeAt ms (n - 1) ∧
      timeAt ms (n - 1) ≤ stamp ms[n] := by
    cases n with
    | zero =>
      -- there is no sample before
      rw [List.take_zero, timeAt_eq h]
      exact ⟨rfl, le_refl _⟩
    | succ n =>
      have hpos := hms.pos ms[n] (List.getElem_mem _)
      have hle := hms.stamp_le n.le_succ h
      rw [Nat.add_sub_cancel, lastTime_take h.le, timeAt_eq (by omega), if_neg (by omega)]
      exact ⟨rfl, hle⟩
  have hseconds := (seconds_eq_iff (K := K) (stamp ms[n]) (timeAt ms (n - 1))
    ((stamp ms[n] : ℤ) - timeAt ms (n - 1))).mpr (by omega)
  rw [timeStep, hbefore.1, hseconds, interval, timeAt_eq h]
  push_cast
  rfl

/-- Since the launch, as well. -/
theorem seconds_launch {ms : List Message} (hms : Timed ms) {k n : ℕ} (hk : k ≤ n)
    (h : n < ms.length) :
    (seconds (stamp ms[n]) (stamp ms[k]) : K) = ((timeAt ms n : K) - timeAt ms k) / 10 ^ 9 := by
  have hstamp : stamp ms[n] < 2 ^ 48 := fromPsasTime_lt ms[n].timestamp
  have hle := hms.stamp_le hk h
  rw [(seconds_eq_iff (K := K) _ _ ((stamp ms[n] : ℤ) - stamp ms[k])).mpr (by omega),
    timeAt_eq h, timeAt_eq (by omega)]
  push_cast
  rfl

/-! ## The invariant -/

/-- What has been integrated after the first `n` samples: nothing up to the launch. -/
structure IntegralInv (ms : List Message) (n : ℕ) (state : StateData K) : Prop where
  velUp : state.velUp =
    ∑ i ∈ Finset.Ico (launchIndex K ms) n, (accelAt ms i - 9.81) * interval ms i
  altitude : state.altitude = LAUNCH_ALTITUDE +
    ∑ i ∈ Finset.Ico (launchIndex K ms) n, velocity ms (launchIndex K ms) i * interval ms i
  rollAngle : state.rollAngle =
    ∑ i ∈ Finset.Ico (launchIndex K ms) n, rollRateAt ms i * interval ms i

omit [IsStrictOrderedRing K] in
/-- Before the launch, the state is that of `state_init`. -/
theorem currentState_before {ms : List Message} {n : ℕ} (h : n ≤ ms.length)
    (hn : n ≤ launchIndex K ms) :
    ((machine (K := K)).run (ms.take n)).currentState = stateInit.currentState := by
  induction n with
  | zero => rfl
  | succ n ih =>
    have hnone : ¬Launched ms[n] ((machine (K := K)).run (ms.take n)) := by
      rintro (hbefore | hlarge)
      · rw [(estimate_invariant (K := K) (ms.take n)).hasLaunched, launchSample_take,
          if_neg (by omega)] at hbefore
        cases hbefore
      · have hlt : n < ms.findIdx fun m => decide (Large K m) := hn
        exact of_decide_eq_false (List.not_of_lt_findIdx hlt) hlarge
    rw [run_take_succ h, stateReceiveImu_of_not_launched hnone]
    exact ih (by omega) (by omega)

/-- After the launch, sample `n` makes the sums up to it the estimate. -/
theorem currentState_after {ms : List Message} (hms : Timed ms) {n : ℕ} (h : n < ms.length)
    (hn : launchIndex K ms ≤ n)
    (hinv : IntegralInv ms n ((machine (K := K)).run (ms.take n)).currentState) :
    ((machine (K := K)).run (ms.take (n + 1))).currentState =
      estimate ms (launchIndex K ms) n := by
  have hlaunch : launchSample K (ms.take n ++ [ms[n]]) = some ms[launchIndex K ms] := by
    rw [List.take_append_getElem h, launchSample_take, if_pos (by omega),
      List.getElem?_eq_getElem]
  have hvel : velocity ms (launchIndex K ms) n =
      ∑ i ∈ Finset.Ico (launchIndex K ms) n, (accelAt ms i - 9.81) * interval ms i +
        (accel ms[n] - 9.81) * interval (K := K) ms n := by
    rw [velocity, ← Finset.sum_Ico_add_eq_sum_Icc hn, accelAt_eq h]
  have hstate := currentState_snoc hlaunch
  rw [List.take_append_getElem h, timeStep_take hms h, seconds_launch hms hn h] at hstate
  rw [hstate]
  unfold integrate estimate
  rw [hinv.velUp, hinv.altitude, hinv.rollAngle, ← hvel, ← Finset.sum_Ico_add_eq_sum_Icc hn,
    ← Finset.sum_Ico_add_eq_sum_Icc hn, accelAt_eq h, rollRateAt_eq h, add_assoc]

omit [IsStrictOrderedRing K] in
theorem integralInv_before {ms : List Message} {n : ℕ} (h : n ≤ ms.length)
    (hn : n ≤ launchIndex K ms) :
    IntegralInv ms n ((machine (K := K)).run (ms.take n)).currentState := by
  rw [currentState_before h hn]
  refine ⟨?_, ?_, ?_⟩
  · rw [Finset.Ico_eq_empty (by omega), Finset.sum_empty]
    rfl
  · rw [Finset.Ico_eq_empty (by omega), Finset.sum_empty, add_zero]
    rfl
  · rw [Finset.Ico_eq_empty (by omega), Finset.sum_empty]
    rfl

/-- In every timed run, every interval from the launch on has been counted once. -/
theorem integral_invariant {ms : List Message} (hms : Timed ms) {n : ℕ} (h : n ≤ ms.length) :
    IntegralInv ms n ((machine (K := K)).run (ms.take n)).currentState := by
  induction n with
  | zero => exact integralInv_before h (Nat.zero_le _)
  | succ n ih =>
    by_cases hn : launchIndex K ms ≤ n
    · rw [currentState_after hms h hn (ih (by omega))]
      have hIco : Finset.Ico (launchIndex K ms) (n + 1) = Finset.Icc (launchIndex K ms) n :=
        Finset.Ico_succ_right_eq_Icc _ _
      refine ⟨?_, ?_, ?_⟩
      · rw [hIco]
        rfl
      · rw [hIco]
        rfl
      · rw [hIco]
        rfl
    · exact integralInv_before h (by omega)

/-! ## The run -/

omit [IsStrictOrderedRing K] in
theorem length_outputs (ms : List Message) :
    ((machine (K := K)).outputs ms).length = ms.length := by
  induction ms using List.reverseRecOn with
  | nil => rfl
  | append_singleton ms m ih =>
    rw [machine.outputs_snoc, List.length_append, ih, List.length_append]
    rfl

omit [IsStrictOrderedRing K] in
/-- Every sample is answered with the state it leads to. -/
theorem outputs_getElem? {ms : List Message} {n : ℕ} (h : n < ms.length) :
    ((machine (K := K)).outputs ms)[n]? = some
      { ID := messageID 'V' 'S' 'T' 'E'
        timestamp := ms[n].timestamp
        data := (machine.run (ms.take (n + 1))).currentState } := by
  have hfirst : ((machine (K := K)).outputs (ms.take (n + 1))).length = n + 1 := by
    rw [length_outputs, List.length_take_of_le h]
  have hbefore : ((machine (K := K)).outputs (ms.take n)).length = n := by
    rw [length_outputs, List.length_take_of_le h.le]
  conv_lhs => rw [← List.take_append_drop (n + 1) ms]
  rw [machine.outputs_append, List.getElem?_append_left (by omega), ← List.take_append_getElem h,
    machine.outputs_snoc, List.getElem?_append_right (by omega), hbefore, Nat.sub_self,
    machine.run_snoc]
  rfl

/-- **The estimate over a run.** -/
theorem estimate_over_run (ms : List Message) (hpos : ∀ m ∈ ms, 0 < stamp m)
    (htimes : (ms.map stamp).Pairwise (· ≤ ·)) :
    ((machine (K := K)).outputs ms).length = ms.length ∧
      ∀ n (h : n < ms.length), ∃ data : StateData K,
        (machine.outputs ms)[n]? = some
          { ID := messageID 'V' 'S' 'T' 'E', timestamp := ms[n].timestamp, data := data } ∧
        (n < launchIndex K ms → data = stateInit.currentState) ∧
        (launchIndex K ms ≤ n → data = estimate ms (launchIndex K ms) n) := by
  have hms : Timed ms := ⟨hpos, htimes⟩
  refine ⟨length_outputs ms, fun n h => ?_⟩
  refine ⟨((machine (K := K)).run (ms.take (n + 1))).currentState, outputs_getElem? h, ?_, ?_⟩
  · intro hn
    exact currentState_before h hn
  · intro hn
    exact currentState_after hms h hn (integral_invariant hms h.le)

/-- A sample before the launch, the launch a second later, and a sample after it. -/
def launchRun : List Message :=
  [imuSample (toPsasTime ⟨0, 0⟩ ⟨1, 0⟩) 0 0, imuSample (toPsasTime ⟨0, 0⟩ ⟨2, 0⟩) 127 255,
    imuSample (toPsasTime ⟨0, 0⟩ ⟨3, 0⟩) 0 0]

/-- The interval before the launch counts with the acceleration of the launch sample. -/
theorem estimate_over_run_launch :
    ∃ data : StateData ℚ, (machine.outputs launchRun)[2]? = some
        { ID := messageID 'V' 'S' 'T' 'E', timestamp := toPsasTime ⟨0, 0⟩ ⟨3, 0⟩, data := data } ∧
      data.time = 1 ∧ data.velUp = ADIS_GLSB * 32767 - 2 * 9.81 := by
  have hrun := estimate_over_run (K := ℚ) launchRun (by decide) (by decide)
  obtain ⟨data, hsent, -, hdata⟩ := hrun.2 2 (by decide)
  refine ⟨data, hsent, ?_, ?_⟩
  · rw [hdata (by decide +kernel)]
    decide +kernel
  · rw [hdata (by decide +kernel)]
    decide +kernel

end StateEstimation
end FlightComputer
