import FlightComputer.RollControlTheorems
import FlightComputer.TimeTheorems

/-!
# The cut-off in real time

The deadline of `rollcontrol.c` is two minutes after a time stamp, and is compared with
another time stamp. Both are readings of a counter that wraps around, and the deadline is
not: the comparison says whether two minutes have passed exactly as long as the counter does
not wrap around between the two (`cutoff_in_real_time_iff`).
-/

namespace FlightComputer
namespace RollControl

variable {K : Type} [Field K] [LinearOrder K]

/-- After launch, a state message switches the servo off exactly when it is past the
deadline. -/
theorem rcReceiveState_off_iff (libm : Libm K) (clock : Timestamp) (ID : MessageID)
    (timestamp : Timestamp) (state : StateData K) {s : State K} (hl : s.launched = true)
    (he : s.enableServo = true) :
    (rcReceiveState libm clock ID timestamp state s).1.enableServo = false ↔
      s.timeout < fromPsasTime timestamp := by
  by_cases ht : s.timeout < fromPsasTime timestamp
  · rw [rcReceiveState_timeout libm clock ID timestamp state hl he ht]
    exact iff_of_true rfl ht
  · have hno : ¬(s.launched = true ∧ s.enableServo = true ∧
        s.timeout < fromPsasTime timestamp) := fun h => ht h.2.2
    rw [rcReceiveState_no_timeout libm clock ID timestamp state hno]
    have hon : (if s.enableServo = true ∧ ID = messageID 'V' 'S' 'T' 'E' then
        ((pidController state s).2, setCanardAngle clock
          (estimateAlpha libm (pidController state s).1 state) (pidController state s).2)
      else (s, [])).1.enableServo = true := by
      split_ifs
      · exact he
      · exact he
    rw [hon]
    exact iff_of_false (by simp) ht

/-- Two minutes later on a counter of 48 bits: the deadline is passed when two minutes have
passed and the counter has not wrapped around. -/
theorem past_deadline_iff {starttime ts₀ ts : Timespec}
    (hle : ts₀.nanoseconds ≤ ts.nanoseconds)
    (hlt : ts.nanoseconds - ts₀.nanoseconds < 2 ^ 47) :
    fromPsasTime (toPsasTime starttime ts₀) + TIMEOUT < fromPsasTime (toPsasTime starttime ts) ↔
      120 * 10 ^ 9 < ts.nanoseconds - ts₀.nanoseconds ∧
        (ts₀.nanoseconds - starttime.nanoseconds) % 2 ^ 48
          + (ts.nanoseconds - ts₀.nanoseconds) < 2 ^ 48 := by
  obtain ⟨hstart, hlater⟩ := fromPsasTime_later starttime hle (by omega)
  rw [← hstart]
  unfold TIMEOUT
  omega

/-- **The cut-off in real time.** While the umbilical is reported disconnected, since a report
received at `ts₀`, and the servo is on, a state message received at `ts` switches it off
exactly when more than two minutes have passed: this holds exactly when no more than two
minutes have passed, or the 48-bit counter does not wrap around in between. -/
theorem cutoff_in_real_time_iff (libm : Libm K) (es : List (Event K))
    (first : Timestamp × UInt8) (hfirst : (disconnectReports es).head? = some first)
    (starttime ts₀ ts : Timespec) (hstamp : first.1 = toPsasTime starttime ts₀)
    (hon : ((machine libm).run es).enableServo = true)
    (hle : ts₀.nanoseconds ≤ ts.nanoseconds)
    (hlt : ts.nanoseconds - ts₀.nanoseconds < 2 ^ 47)
    (clock : Timestamp) (ID : MessageID) (state : StateData K) :
    (((machine libm).step ((machine libm).run es)
          (.rcReceiveState clock ID (toPsasTime starttime ts) state)).1.enableServo = false ↔
        120 * 10 ^ 9 < ts.nanoseconds - ts₀.nanoseconds) ↔
      ts.nanoseconds - ts₀.nanoseconds ≤ 120 * 10 ^ 9 ∨
        (ts₀.nanoseconds - starttime.nanoseconds) % 2 ^ 48
          + (ts.nanoseconds - ts₀.nanoseconds) < 2 ^ 48 := by
  have hinv := timeout_invariant libm es
  have hne : disconnectReports es ≠ [] := by
    intro hnil
    rw [hnil] at hfirst
    cases hfirst
  have hl : ((machine libm).run es).launched = true := hinv.1.mpr hne
  have ht : ((machine libm).run es).timeout =
      fromPsasTime (toPsasTime starttime ts₀) + TIMEOUT := by
    rw [← hstamp]
    exact hinv.2 first hfirst
  have hoff : ((machine libm).step ((machine libm).run es)
      (.rcReceiveState clock ID (toPsasTime starttime ts) state)).1.enableServo = false ↔
        120 * 10 ^ 9 < ts.nanoseconds - ts₀.nanoseconds ∧
          (ts₀.nanoseconds - starttime.nanoseconds) % 2 ^ 48
            + (ts.nanoseconds - ts₀.nanoseconds) < 2 ^ 48 := by
    show (rcReceiveState libm clock ID _ state _).1.enableServo = false ↔ _
    rw [rcReceiveState_off_iff libm clock ID _ state hl hon, ht, past_deadline_iff hle hlt]
  rw [hoff]
  omega

/-- Disconnected and armed right at the start: two minutes and a second later the servo is
switched off. -/
theorem cutoff_in_real_time_at_start :
    ((machine (K := ℚ) ⟨id, id, 3⟩).step
        ((machine ⟨id, id, 3⟩).run
          [.rcRawUmb (messageID 'R' 'N' 'H' 'U') (toPsasTime ⟨0, 0⟩ ⟨0, 0⟩) [0],
            .rcReceiveArm (Vector.replicate 6 0) "ARM"])
        (.rcReceiveState (Vector.replicate 6 0) (messageID 'V' 'S' 'T' 'E')
          (toPsasTime ⟨0, 0⟩ ⟨121, 0⟩) ⟨0, 0, 0, 0, 0, 0⟩)).1.enableServo = false :=
  ((cutoff_in_real_time_iff (K := ℚ) ⟨id, id, 3⟩
    [.rcRawUmb (messageID 'R' 'N' 'H' 'U') (toPsasTime ⟨0, 0⟩ ⟨0, 0⟩) [0],
      .rcReceiveArm (Vector.replicate 6 0) "ARM"] (toPsasTime ⟨0, 0⟩ ⟨0, 0⟩, 0) (by decide)
    ⟨0, 0⟩ ⟨0, 0⟩ ⟨121, 0⟩ rfl rfl (by decide) (by decide) (Vector.replicate 6 0)
    (messageID 'V' 'S' 'T' 'E') ⟨0, 0, 0, 0, 0, 0⟩).mpr (by decide)).mpr (by decide)

/-- Disconnected in the last nanosecond before the counter wraps around: two minutes and a
second later the servo is still on. -/
theorem cutoff_missed :
    ¬(((machine (K := ℚ) ⟨id, id, 3⟩).step
          ((machine ⟨id, id, 3⟩).run
            [.rcRawUmb (messageID 'R' 'N' 'H' 'U') (toPsasTime ⟨0, 0⟩ ⟨281474, 976710655⟩) [0],
              .rcReceiveArm (Vector.replicate 6 0) "ARM"])
          (.rcReceiveState (Vector.replicate 6 0) (messageID 'V' 'S' 'T' 'E')
            (toPsasTime ⟨0, 0⟩ ⟨281595, 976710655⟩) ⟨0, 0, 0, 0, 0, 0⟩)).1.enableServo = false ↔
        120 * 10 ^ 9 < (⟨281595, 976710655⟩ : Timespec).nanoseconds
          - (⟨281474, 976710655⟩ : Timespec).nanoseconds) := by
  decide

end RollControl
end FlightComputer
