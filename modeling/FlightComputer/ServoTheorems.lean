import FlightComputer.ControlLawTheorems
import FlightComputer.SteeringTheorems

/-!
# What the servo is told, and what the log says of it

Every datagram to the servo has its ROLL record in the log, and carries the same angle, cut to
ticks, and the same flag (`servo_datagrams_logged`). And the log says why: unless a test command
was obeyed, the IMU samples, umbilical reports and signals in it, passed once more through
`state.c` and `rollcontrol.c`, give every one of these datagrams (`log_replays_flight`).
-/

namespace FlightComputer

open Logger (Record Entry recordOf recordCodec)

variable {K : Type} [Field K] [LinearOrder K]

/-! ## The angles that are sent -/

namespace RollControl

/-- Only `set_canard_angle` sends ROLL messages. -/
lemma setCanardAngle_of_mem_step {libm : Libm K} {s : State K} {e : Event K} {m : ROLLMessage K}
    (h : .rcSendServo m ∈ (step libm s e).2) :
    ∃ clock degrees s', .rcSendServo m ∈ setCanardAngle clock degrees s' := by
  cases e with
  | rcReceiveArm clock signal =>
    change _ ∈ (rcReceiveArm clock signal s).2 at h
    unfold rcReceiveArm at h
    split_ifs at h
    · cases h
    · exact ⟨_, _, _, h⟩
    · cases h
  | rcRawTestrc clock data =>
    change _ ∈ (rcRawTestrc clock data s).2 at h
    unfold rcRawTestrc at h
    split_ifs at h
    · simp at h
    · rcases List.mem_append.mp h with h | h
      · exact ⟨_, _, _, h⟩
      · simp at h
    · simp at h
    · simp at h
  | rcRawUmb ID timestamp data => cases h
  | rcReceiveState clock ID timestamp state =>
    change _ ∈ (rcReceiveState libm clock ID timestamp state s).2 at h
    by_cases hoff : s.launched = true ∧ s.enableServo = true ∧ s.timeout < fromPsasTime timestamp
    · rw [rcReceiveState_timeout libm clock ID timestamp state hoff.1 hoff.2.1 hoff.2.2] at h
      exact ⟨_, _, _, h⟩
    · rw [rcReceiveState_no_timeout libm clock ID timestamp state hoff] at h
      split_ifs at h
      · exact ⟨_, _, _, h⟩
      · cases h

end RollControl

/-- What the servo may be told: an angle the canards can have, and whether to disable. -/
structure InRange (c : RollServoData K) : Prop where
  min_le : RollControl.MIN_CANARD_ANGLE ≤ c.angle
  le_max : c.angle ≤ RollControl.MAX_CANARD_ANGLE
  disable : c.disable = 0 ∨ c.disable = 1

section

variable [IsStrictOrderedRing K]

lemma inRange_setCanardAngle {clock : Timestamp} {degrees : K} {s : RollControl.State K}
    {m : ROLLMessage K} (h : .rcSendServo m ∈ RollControl.setCanardAngle clock degrees s) :
    InRange m.data := by
  cases List.mem_singleton.mp h
  refine ⟨le_clamp degrees RollServo.canard_range, clamp_le degrees RollServo.canard_range, ?_⟩
  cases s.enableServo
  · exact Or.inr rfl
  · exact Or.inl rfl

/-- **In range.** Whatever steers, the servo is told no more than that. -/
theorem Steering.inRange_outputs (libm : Libm K) (es : List Steering.Event) :
    ∀ c ∈ (Steering.machine libm).outputs es, InRange c := by
  rw [Machine.forall_mem_outputs_iff]
  intro pre e post _ c hc
  obtain ⟨m, hm, rfl⟩ := List.mem_map.mp hc
  have hall : ∀ es s, ∀ o ∈ (RollControl.machine libm).emits s es, ∀ m ∈ RollControl.rolls [o],
      InRange m.data := by
    intro es s
    rw [Machine.forall_mem_emits_iff, Machine.along_iff]
    intro pre e post _ o ho m hm
    cases o with
    | rcSendServo m' =>
      obtain ⟨clock, degrees, s', hsend⟩ := RollControl.setCanardAngle_of_mem_step ho
      rw [List.mem_singleton.mp hm]
      exact inRange_setCanardAngle hsend
    | sendServoResponse message => cases hm
  -- one event may be several calls
  obtain ⟨o, ho, hroll⟩ := List.mem_filterMap.mp hm
  apply hall _ _ o ho
  exact List.mem_filterMap.mpr ⟨o, List.mem_singleton_self o, hroll⟩

end

/-! ## The datagrams -/

namespace RollServo

/-- The `n`-th datagram to the servo. -/
def datagram [FloorSemiring K] (n : ℕ) (c : RollServoData K) : Bytes :=
  beBytes 4 (n % 2 ^ 32) ++ beBytes 2 (pulse c.angle) ++ [c.disable]

/-- Four shifts are the big-endian bytes. -/
lemma bytes_uint32 (seq : UInt32) :
    [(seq >>> 24).toUInt8, (seq >>> 16).toUInt8, (seq >>> 8).toUInt8, seq.toUInt8] =
      beBytes 4 seq.toNat := by
  have hbyte : ∀ (shift : UInt32) (n : ℕ), shift.toNat = n → n < 32 →
      (seq >>> shift).toUInt8 = UInt8.ofNat (seq.toNat / 2 ^ n) := by
    intro shift n hshift hn
    apply UInt8.toNat_inj.mp
    rw [UInt32.toNat_toUInt8, UInt32.toNat_shiftRight, hshift, Nat.mod_eq_of_lt hn,
      Nat.shiftRight_eq_div_pow, UInt8.toNat_ofNat']
  have hlast : seq.toUInt8 = UInt8.ofNat seq.toNat := by
    apply UInt8.toNat_inj.mp
    rw [UInt32.toNat_toUInt8, UInt8.toNat_ofNat']
  rw [hbyte 24 24 rfl (by omega), hbyte 16 16 rfl (by omega), hbyte 8 8 rfl (by omega), hlast]
  simp only [beBytes, leBytes, List.reverse_cons, List.reverse_nil, List.nil_append,
    List.cons_append, Nat.div_div_eq_div_mul]
  rfl

lemma bytes_uint16 (ticks : UInt16) :
    [(ticks >>> 8).toUInt8, ticks.toUInt8] = beBytes 2 ticks.toNat := by
  have hhigh : (ticks >>> 8).toUInt8 = UInt8.ofNat (ticks.toNat / 256) := by
    apply UInt8.toNat_inj.mp
    rw [UInt16.toNat_toUInt8, UInt16.toNat_shiftRight, UInt8.toNat_ofNat', Nat.shiftRight_eq_div_pow]
    rfl
  have hlow : ticks.toUInt8 = UInt8.ofNat ticks.toNat := by
    apply UInt8.toNat_inj.mp
    rw [UInt16.toNat_toUInt8, UInt8.toNat_ofNat']
  rw [hhigh, hlow]
  rfl

variable [IsStrictOrderedRing K] [FloorSemiring K]

omit [IsStrictOrderedRing K] in
lemma pulse_of_inRange {c : RollServoData K} (h : InRange c) :
    pulse c.angle = ⌊25202 + 6721 / 15 * c.angle⌋₊ := by
  rw [pulse, clamp_eq h.min_le h.le_max]

/-- One call. -/
lemma step_eq (n : ℕ) {adj : ROLLMessage K} (h : InRange adj.data) :
    step (.ofNat n) adj = (.ofNat (n + 1), [some (datagram n adj.data)]) := by
  obtain ⟨t, ht, hfloor, -⟩ := ticks_eq adj h.min_le h.le_max
  have hseq : (UInt32.ofNat n).toNat = n % 2 ^ 32 := UInt32.toNat_ofNat'
  have hbytes : datagram n adj.data =
      [(UInt32.ofNat n >>> 24).toUInt8, (UInt32.ofNat n >>> 16).toUInt8,
        (UInt32.ofNat n >>> 8).toUInt8, (UInt32.ofNat n).toUInt8] ++
          [(t >>> 8).toUInt8, t.toUInt8] ++ [adj.data.disable] := by
    rw [bytes_uint32, bytes_uint16, hseq, hfloor, datagram, pulse_of_inRange h]
  unfold step rsReceiveAdj
  rw [ht, hbytes, UInt32.ofNat_add]
  rfl

/-- **The datagrams of some calls.** -/
theorem emits_eq {adjs : List (ROLLMessage K)} (h : ∀ adj ∈ adjs, InRange adj.data) (n : ℕ) :
    machine.emits (.ofNat n) adjs =
      ((adjs.map ROLLMessage.data).zipIdx n).map fun (c, n) => some (datagram n c) := by
  induction adjs generalizing n with
  | nil => rfl
  | cons adj adjs ih =>
    have hstep : machine.step (.ofNat n) adj = _ := step_eq n (h adj List.mem_cons_self)
    have hrest := ih (fun adj' hadj' => h adj' (List.mem_cons_of_mem adj hadj')) (n + 1)
    rw [Machine.emits_cons, hstep, hrest, List.map_cons, List.zipIdx_cons, List.map_cons]
    rfl

end RollServo

/-! ## The program -/

namespace Main

/-- What a call tells the servo. -/
def servoCommand : Output K → Option (RollServoData K)
  | .rsReceiveAdj adj => some adj.data
  | _ => none

/-- The data of a ROLL message as they are logged. -/
def rollData (doubleBits : K → ℕ) (c : RollServoData K) : Bytes :=
  beBytes 8 (doubleBits c.angle) ++ [c.disable]

/-- The data of a ROLL record that a call logs. -/
def loggedRoll (o : Output K) : Option Bytes :=
  ((loggedMessage o).filter fun m => m.ID = messageID 'R' 'O' 'L' 'L').map Message.payload

variable (env : Env K)

omit [Field K] [LinearOrder K] in
lemma reads_servoCommand : Reads env servoCommand fun c => [c] where
  servo := fun _ _ _ _ => rfl
  message := fun _ _ _ _ => rfl
  flush := fun _ => rfl
  respond := fun _ => rfl

omit [Field K] [LinearOrder K] in
lemma reads_loggedRoll : Reads env loggedRoll fun c => [rollData env.doubleBits c] where
  servo := by
    intro n n' out hout
    have hstore : store 8 (swapBytes 8 (env.doubleBits out.data.angle)) ++ [out.data.disable] =
        rollData env.doubleBits out.data := by
      rw [store, leBytes_swapBytes, rollData]
    -- the length in the message is that of the data
    have hpayload : memread (store 8 (swapBytes 8 (env.doubleBits out.data.angle)) ++
        [out.data.disable]) out.dataLength.toNat = rollData env.doubleBits out.data := by
      have hlen : (rollData env.doubleBits out.data).length = 9 := by
        rw [rollData, List.length_append, length_beBytes, List.length_singleton]
      have hnine : out.dataLength.toNat = (rollData env.doubleBits out.data).length := by
        rw [hlen, hout.dataLength]
        rfl
      rw [hstore, hnine]
      exact memread_length _
    have hroll : loggedRoll (.log (Logger.logReceiveRc env.doubleBits (env.clock n) out) : Output K) =
        some (rollData env.doubleBits out.data) := by
      show ((some _).filter _).map _ = _
      rw [Option.filter_some, if_pos (by simpa using hout.ID)]
      exact congrArg some hpayload
    exact List.filterMap_cons_some hroll
  message := by
    intro call m hm hID
    show ((call.message).filter _).map _ = none
    rw [hm, Option.filter_some, if_neg (by simpa using hID)]
    rfl
  flush := fun _ => rfl
  respond := fun _ => rfl

end Main

namespace Program

variable (env : Main.Env K)

/-- The servo is told what steers it. -/
theorem servoCommands_eq (es : List Event) :
    (mainOutputs env es).filterMap Main.servoCommand = commands env es := by
  rw [reads_mainOutputs env (Main.reads_servoCommand env), List.flatMap_singleton']

/-- The log holds the same. -/
theorem loggedRolls_eq (es : List Event) :
    (mainOutputs env es).filterMap Main.loggedRoll =
      (commands env es).map (Main.rollData env.doubleBits) := by
  rw [reads_mainOutputs env (Main.reads_loggedRoll env), List.map_eq_flatMap]

variable [IsStrictOrderedRing K] [FloorSemiring K]

omit [FloorSemiring K] in
theorem inRange_commands (es : List Event) : ∀ c ∈ commands env es, InRange c :=
  Steering.inRange_outputs env.libm _

/-- **The datagrams to the servo**, in terms of what steers it. -/
theorem servoData_session (es : List Event) :
    servoData (session env es) =
      (commands env es).zipIdx.map fun (c, n) => some (RollServo.datagram n c) := by
  have hfinal : servoData (final env ((machine env).run es)) = [] := by
    rw [← filterMap_servoWrite]
    exact filterMap_map_of_none Syscall.logger servoWrite (fun _ => rfl) _
  have hdata : ((mainOutputs env es).filterMap adjustment).map ROLLMessage.data =
      commands env es := by
    rw [← servoCommands_eq, List.map_filterMap]
    apply List.filterMap_congr
    intro o _
    cases o <;> rfl
  have hrange : ∀ adj ∈ (mainOutputs env es).filterMap adjustment, InRange adj.data := by
    intro adj hadj
    apply inRange_commands env es
    rw [← hdata]
    exact List.mem_map_of_mem hadj
  have hsession : servoData (session env es) = servoData ((machine env).outputs es) ++
      servoData (final env ((machine env).run es)) := List.filterMap_append
  rw [hsession, hfinal, List.append_nil, servoData_outputs, ← hdata]
  exact RollServo.emits_eq hrange 0

/-- **Every datagram to the servo is in the log.** The ROLL records of the log file and the
datagrams to the servo are those of one list of commands, in one order: the `n`-th datagram is
`n`, the angle in ticks, and the flag. All angles are between -15 and 15 degrees, and all pulses
between 18481 and 31923 ticks. All this in exact arithmetic, and for regular runs. -/
theorem servo_datagrams_logged {ok : ℕ → Bool} (es : List Event) (h : Regular env ok es) :
    ∃ (records : List Record) (told : List (RollServoData K)),
      recordCodec.decodeAll (logFile (sent ok (session env es))) = some records ∧
      (records.filter fun r => r.ID = messageID 'R' 'O' 'L' 'L').map Record.data =
        told.map (Main.rollData env.doubleBits) ∧
      servoData (sent ok (session env es)) =
        told.zipIdx.map (fun (c, n) => some (beBytes 4 (n % 2 ^ 32) ++
          beBytes 2 ⌊25202 + 6721 / 15 * c.angle⌋₊ ++ [c.disable])) ∧
      ∀ c ∈ told, |c.angle| ≤ 15 ∧ 18481 ≤ ⌊25202 + 6721 / 15 * c.angle⌋₊ ∧
        ⌊25202 + 6721 / 15 * c.angle⌋₊ ≤ 31923 ∧ (c.disable = 0 ∨ c.disable = 1) := by
  rw [sent_of_ok h.writes]
  obtain ⟨j, hentries, hfile, -⟩ := exists_files env h.packets
  refine ⟨j.fileRecords, commands env es, hfile, ?_, ?_, ?_⟩
  · rw [← List.filterMap_eq_filter, List.map_filterMap,
      fileRecords_filterMap env hentries fun stamp n => rfl, entries_filterMap, ← loggedRolls_eq]
    apply List.filterMap_congr
    intro o _
    unfold Main.loggedRoll
    cases Main.loggedMessage o with
    | none => rfl
    | some m =>
      by_cases hID : m.ID = messageID 'R' 'O' 'L' 'L'
      · simp [Option.guard, Option.filter, recordOf, hID]
      · simp [Option.guard, Option.filter, recordOf, hID]
  · -- in range the clamp in front of the ticks does nothing
    rw [servoData_session env es]
    apply List.map_congr_left
    intro cn hcn
    have hrange := inRange_commands env es cn.1 (List.fst_mem_of_mem_zipIdx hcn)
    show some (RollServo.datagram cn.2 cn.1) = _
    rw [RollServo.datagram, RollServo.pulse_of_inRange hrange]
  · intro c hc
    have hrange := inRange_commands env es c hc
    obtain ⟨t, -, hfloor, hmin, hmax⟩ := RollServo.ticks_eq
      ⟨messageID 'R' 'O' 'L' 'L', Steering.noClock, 9, c⟩ hrange.min_le hrange.le_max
    have hlower := hrange.min_le
    have hupper := hrange.le_max
    norm_num [RollControl.MIN_CANARD_ANGLE] at hlower
    norm_num [RollControl.MAX_CANARD_ANGLE] at hupper
    dsimp only at hfloor
    rw [← hfloor]
    exact ⟨abs_le.mpr ⟨hlower, hupper⟩, hmin, hmax, hrange.disable⟩

lemma servoData_armedRun : servoData (sent noFailures (session Main.stillEnv armedRun)) =
    [some [0, 0, 0, 0, 0x62, 0x72, 0], some [0, 0, 0, 1, 0x62, 0x72, 1]] := by
  decide +kernel

/-- The fins are held in the centre, and released. -/
theorem servo_datagrams_logged_armed :
    servoData (sent noFailures (session Main.stillEnv armedRun)) =
        [some [0, 0, 0, 0, 0x62, 0x72, 0], some [0, 0, 0, 1, 0x62, 0x72, 1]] ∧
      ∃ records, recordCodec.decodeAll (logFile (sent noFailures
          (session Main.stillEnv armedRun))) = some records ∧
        (records.filter fun r => r.ID = messageID 'R' 'O' 'L' 'L').length = 2 := by
  have hservo := servoData_armedRun
  obtain ⟨records, told, hfile, hroll, htold, -⟩ :=
    servo_datagrams_logged Main.stillEnv armedRun regular_armedRun
  refine ⟨hservo, records, hfile, ?_⟩
  have hlength := congrArg List.length hroll
  have hlength' := congrArg List.length htold
  rw [hservo, List.length_map, List.length_zipIdx] at hlength'
  rw [List.length_map, List.length_map, ← hlength'] at hlength
  exact hlength

/-- **The log replays the flight.** If no test command was obeyed in a regular run, then the records
of the log file say all that steered: the IMU samples, umbilical reports and signals among them,
passed once more through `state.c` and `rollcontrol.c`, give every datagram to the servo, in exact
arithmetic. -/
theorem log_replays_flight {ok : ℕ → Bool} (es : List Event) (h : Regular env ok es)
    (hquiet : ∀ message ∈ replies (sent ok (session env es)),
      message ≠ "Roll control servos enabled" ∧ message ≠ "Roll control servos disabled") :
    ∃ records, recordCodec.decodeAll (logFile (sent ok (session env es))) = some records ∧
      servoData (sent ok (session env es)) =
        ((Steering.machine env.libm).outputs
          (records.filterMap Steering.Event.ofRecord)).zipIdx.map
            fun (c, n) => some (RollServo.datagram n c) := by
  rw [sent_of_ok h.writes] at hquiet ⊢
  obtain ⟨j, hentries, hfile, -⟩ := exists_files env h.packets
  have hevents : j.fileRecords.filterMap Steering.Event.ofRecord = steeringEvents env es := by
    rw [fileRecords_filterMap env hentries fun stamp n => rfl, entries_filterMap, steeringEvents]
    apply List.filterMap_congr
    intro o ho
    cases o with
    | log call => rfl
    | rsReceiveAdj adj => rfl
    | respond message =>
      -- the reply is to no test command that was obeyed
      have hmem : message ∈ replies (session env es) := by
        rw [replies_session]
        exact List.mem_filterMap.mpr ⟨_, ho, rfl⟩
      obtain ⟨henabled, hdisabled⟩ := hquiet message hmem
      show none = if message = "Roll control servos enabled" then _ else _
      rw [if_neg henabled, if_neg hdisabled]
  refine ⟨j.fileRecords, hfile, ?_⟩
  rw [hevents]
  exact servoData_session env es

/-- Replayed, the log of that run gives the two datagrams. -/
theorem log_replays_flight_armed :
    ∃ records,
      recordCodec.decodeAll (logFile (sent noFailures (session Main.stillEnv armedRun))) =
        some records ∧
      ((Steering.machine Main.stillEnv.libm).outputs
        (records.filterMap Steering.Event.ofRecord)).zipIdx.map
          (fun (c, n) => some (RollServo.datagram n c)) =
        [some [0, 0, 0, 0, 0x62, 0x72, 0], some [0, 0, 0, 1, 0x62, 0x72, 1]] := by
  obtain ⟨records, hfile, hservo⟩ :=
    log_replays_flight Main.stillEnv armedRun regular_armedRun (by decide +kernel)
  rw [servoData_armedRun] at hservo
  exact ⟨records, hfile, hservo.symm⟩

end Program

end FlightComputer
