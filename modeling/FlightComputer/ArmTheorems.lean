import FlightComputer.Arm
import FlightComputer.Utils.History

/-!
# The arming interlock

Each of the three flags of `arm.c` is a function of one part of the history: `upright` of the
IMU samples, `gpsLocked` of the navigation reports, `slockEnable` of the sensor-lock commands
(`ArmInv`, `arm_invariant`). The answer to an arm command is then a statement about what
the rocket has been sent (`arming_interlock`).
-/

namespace FlightComputer
namespace Arm

/-! ## The history -/

/-- The IMU samples received. -/
def imuSamples (es : List Event) : List ADIS16405Data :=
  es.filterMap fun
    | .armReceiveImu m => some (ADIS16405Data.ofMem m.data)
    | _ => none

/-- The Venus A8 navigation reports received. -/
def navReports (es : List Event) : List Venus8NavigationData :=
  es.filterMap fun
    | .armReceiveGps m =>
      if m.ID = messageID 'V' '8' 'A' '8' then some (Venus8NavigationData.ofMem m.data) else none
    | _ => none

/-- The sensor-lock commands recognised. -/
def slockCommands (es : List Event) : List Command :=
  es.filterMap fun
    | .armRawIn buffer =>
      if recognise buffer = .enSlock ∨ recognise buffer = .diSlock then some (recognise buffer)
      else none
    | _ => none

/-- A sample that passes the three tests of `armReceiveImu`. -/
def standing (data : ADIS16405Data) : Bool :=
  about (accel data.accX) (-1) ∧ about (accel data.accY) 0 ∧ about (accel data.accZ) 0

/-- The arm signals among the calls. -/
def signals (out : List Output) : List String :=
  out.filterMap fun
    | .armSendSignal code => some code
    | .sendArmResponse _ => none

@[simp] lemma signals_nil : signals [] = [] := rfl

@[simp] lemma signals_armSendSignal (code : String) (out : List Output) :
    signals (.armSendSignal code :: out) = code :: signals out := rfl

@[simp] lemma signals_sendArmResponse (message : String) (out : List Output) :
    signals (.sendArmResponse message :: out) = signals out := rfl

/-! ## What the flags say about the history -/

/-- The flags of `arm.c` as functions of what it has received. -/
structure ArmInv (es : List Event) (s : State) : Prop where
  upright : s.upright = min 100 ((imuSamples es).rtakeWhile standing).length
  gpsLocked : s.gpsLocked = true ↔
    ∃ report ∈ (navReports es).getLast?, VENUS_A8_FIX_MODE_3D ≤ report.fixMode
  slockEnable : s.slockEnable = false ↔ (slockCommands es).getLast? = some .diSlock

/-- An IMU sample counts up to 100, or starts the count again. -/
lemma armReceiveImu_eq (m : Message) (s : State) :
    armReceiveImu m s =
      { s with
        upright := if standing (ADIS16405Data.ofMem m.data) = true then
            (if s.upright < 100 then s.upright + 1 else s.upright)
          else 0 } := by
  unfold armReceiveImu standing
  by_cases hgood : about (accel (ADIS16405Data.ofMem m.data).accX) (-1) ∧
      about (accel (ADIS16405Data.ofMem m.data).accY) 0 ∧
      about (accel (ADIS16405Data.ofMem m.data).accZ) 0
  · have hbad := not_or.mpr ⟨not_not_intro hgood.1,
      not_or.mpr ⟨not_not_intro hgood.2.1, not_not_intro hgood.2.2⟩⟩
    rw [if_neg hbad, if_pos (decide_eq_true hgood)]
    split_ifs <;> rfl
  · have hbad := (not_and_or.mp hgood).imp_right not_and_or.mp
    rw [if_pos hbad, if_neg (by simpa using hgood)]

/-- A navigation report decides the GPS lock; other messages are ignored. -/
lemma armReceiveGps_eq (m : Message) (s : State) :
    armReceiveGps m s =
      if m.ID = messageID 'V' '8' 'A' '8' then
        { s with gpsLocked :=
            VENUS_A8_FIX_MODE_3D ≤ (Venus8NavigationData.ofMem m.data).fixMode }
      else s := by
  unfold armReceiveGps
  by_cases hID : m.ID = messageID 'V' '8' 'A' '8'
  · rw [if_neg (not_not_intro hID.symm), if_pos hID]
    by_cases hfix : (Venus8NavigationData.ofMem m.data).fixMode ≥ VENUS_A8_FIX_MODE_3D
    · simp only [if_pos hfix, decide_eq_true hfix]
    · simp only [if_neg hfix, decide_eq_false hfix]
  · rw [if_pos (Ne.symm hID), if_neg hID]

/-- A command writes at most the sensor lock. -/
lemma armRawIn_state (buffer : Bytes) (s : State) :
    (armRawIn buffer s).1 =
      { s with
        slockEnable := if recognise buffer = .enSlock then true
          else if recognise buffer = .diSlock then false
          else s.slockEnable } := by
  unfold armRawIn
  cases recognise buffer with
  | arm =>
    simp only [reduceCtorEq, if_false]
    split_ifs <;> rfl
  | safe => rfl
  | enSlock => rfl
  | diSlock => rfl
  | unknown => rfl

/-- There are two arm signals. -/
theorem code_of_mem_step {s : State} {e : Event} {code : String}
    (h : .armSendSignal code ∈ (step s e).2) : code = "ARM" ∨ code = "SAFE" := by
  cases e with
  | armReceiveImu m => cases h
  | armReceiveGps m => cases h
  | armRawIn buffer =>
    change _ ∈ (armRawIn buffer s).2 at h
    unfold armRawIn at h
    cases hcommand : recognise buffer with
    | arm =>
      simp only [hcommand] at h
      split_ifs at h
      · left
        simpa using h
      · simp at h
    | safe =>
      right
      simpa [hcommand] using h
    | enSlock => simp [hcommand] at h
    | diSlock => simp [hcommand] at h
    | unknown => simp [hcommand] at h

lemma history_snoc (es : List Event) (e : Event) :
    imuSamples (es ++ [e]) = imuSamples es ++ imuSamples [e] ∧
      navReports (es ++ [e]) = navReports es ++ navReports [e] ∧
      slockCommands (es ++ [e]) = slockCommands es ++ slockCommands [e] :=
  ⟨List.filterMap_append, List.filterMap_append, List.filterMap_append⟩

/-- One more call keeps the flags in step with the history. -/
lemma armInv_step {es : List Event} {s : State} (h : ArmInv es s) (e : Event) :
    ArmInv (es ++ [e]) (step s e).1 := by
  obtain ⟨himu, hnav, hslock⟩ := history_snoc es e
  cases e with
  | armReceiveImu m =>
    show ArmInv _ (armReceiveImu m s)
    rw [armReceiveImu_eq]
    refine ⟨?_, ?_, ?_⟩
    · rw [himu]
      show _ = min 100 ((imuSamples es ++ [ADIS16405Data.ofMem m.data]).rtakeWhile standing).length
      rw [saturating_count, ← h.upright]
    · rw [hnav]
      simpa [navReports] using h.gpsLocked
    · rw [hslock]
      simpa [slockCommands] using h.slockEnable
  | armReceiveGps m =>
    show ArmInv _ (armReceiveGps m s)
    rw [armReceiveGps_eq]
    by_cases hID : m.ID = messageID 'V' '8' 'A' '8'
    · rw [if_pos hID]
      refine ⟨?_, ?_, ?_⟩
      · rw [himu]
        simpa [imuSamples] using h.upright
      · have hone : navReports [Event.armReceiveGps m] = [Venus8NavigationData.ofMem m.data] := by
          simp [navReports, hID]
        rw [hnav, hone]
        simp
      · rw [hslock]
        simpa [slockCommands] using h.slockEnable
    · rw [if_neg hID]
      refine ⟨?_, ?_, ?_⟩
      · rw [himu]
        simpa [imuSamples] using h.upright
      · have hnone : navReports [Event.armReceiveGps m] = [] := by simp [navReports, hID]
        rw [hnav, hnone, List.append_nil]
        exact h.gpsLocked
      · rw [hslock]
        simpa [slockCommands] using h.slockEnable
  | armRawIn buffer =>
    show ArmInv _ (armRawIn buffer s).1
    rw [armRawIn_state]
    refine ⟨?_, ?_, ?_⟩
    · rw [himu]
      simpa [imuSamples] using h.upright
    · rw [hnav]
      simpa [navReports] using h.gpsLocked
    · rw [hslock]
      by_cases hcmd : recognise buffer = .enSlock ∨ recognise buffer = .diSlock
      · have hone : slockCommands [Event.armRawIn buffer] = [recognise buffer] := by
          simp [slockCommands, hcmd]
        rw [hone, List.getLast?_concat]
        rcases hcmd with hcmd | hcmd <;> simp [hcmd]
      · have hnone : slockCommands [Event.armRawIn buffer] = [] := by
          simp [slockCommands, hcmd]
        rw [hnone, List.append_nil]
        rw [not_or] at hcmd
        simpa [hcmd.1, hcmd.2] using h.slockEnable

/-- In every reachable state the flags say what the history says. -/
theorem arm_invariant (es : List Event) : ArmInv es (machine.run es) := by
  refine machine.run_invariant (P := ArmInv) ⟨rfl, ?_, ?_⟩ (fun es e h => armInv_step h e) es
  · simp [machine, armInit, navReports]
  · simp [machine, armInit, slockCommands]

/-! ## The interlock -/

lemma signals_arm {buffer : Bytes} (h : recognise buffer = .arm) (s : State) :
    "ARM" ∈ signals (armRawIn buffer s).2 ↔
      s.slockEnable = false ∨ (s.upright = 100 ∧ s.gpsLocked = true) := by
  unfold armRawIn
  simp only [h]
  by_cases hallow : (s.gpsLocked = true ∧ s.upright = 100) ∨ ¬s.slockEnable = true
  · rw [if_pos hallow]
    rw [Bool.not_eq_true] at hallow
    simp only [signals_armSendSignal, List.mem_cons, true_or, true_iff]
    tauto
  · rw [if_neg hallow]
    rw [Bool.not_eq_true] at hallow
    simp only [signals_sendArmResponse, signals_nil, List.not_mem_nil, false_iff]
    tauto

/-- **Arming interlock.** An arm command sends ARM exactly when the last sensor-lock command
was DI_SLOCK, or the last 100 IMU samples were all standing and the last navigation report
had a 3D fix. A safe command always sends SAFE, and no other call sends ARM. -/
theorem arming_interlock (es : List Event) :
    (∀ buffer, recognise buffer = .arm →
      ("ARM" ∈ signals (machine.step (machine.run es) (.armRawIn buffer)).2 ↔
        (slockCommands es).getLast? = some .diSlock ∨
          ((100 ≤ (imuSamples es).length ∧
              ∀ data ∈ (imuSamples es).rtake 100, about (accel data.accX) (-1) ∧
                about (accel data.accY) 0 ∧ about (accel data.accZ) 0) ∧
            ∃ report ∈ (navReports es).getLast?, VENUS_A8_FIX_MODE_3D ≤ report.fixMode))) ∧
    (∀ buffer, recognise buffer = .safe →
      signals (machine.step (machine.run es) (.armRawIn buffer)).2 = ["SAFE"]) ∧
    ∀ e, (∀ buffer, e = .armRawIn buffer → recognise buffer ≠ .arm) →
      "ARM" ∉ signals (machine.step (machine.run es) e).2 := by
  have hinv := arm_invariant es
  refine ⟨fun buffer h => ?_, fun buffer h => ?_, fun e he => ?_⟩
  · have hrun : (machine.run es).upright = 100 ↔ 100 ≤ (imuSamples es).length ∧
        ∀ data ∈ (imuSamples es).rtake 100, standing data = true := by
      rw [hinv.upright, ← le_length_rtakeWhile_iff]
      omega
    show "ARM" ∈ signals (armRawIn buffer (machine.run es)).2 ↔ _
    rw [signals_arm h, hrun, hinv.gpsLocked, hinv.slockEnable]
    simp only [standing, decide_eq_true_eq]
  · show signals (armRawIn buffer (machine.run es)).2 = _
    unfold armRawIn
    simp only [h]
    rfl
  · cases e with
    | armReceiveImu m => exact List.not_mem_nil
    | armReceiveGps m => exact List.not_mem_nil
    | armRawIn buffer =>
      show "ARM" ∉ signals (armRawIn buffer (machine.run es)).2
      have hne := he buffer rfl
      unfold armRawIn
      cases hcmd : recognise buffer with
      | arm => exact absurd hcmd hne
      | safe => simp
      | enSlock => simp
      | diSlock => simp
      | unknown => simp

end Arm
end FlightComputer
