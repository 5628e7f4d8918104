import FlightComputer.MainTheorems
import FlightComputer.TimeTheorems

/-!
# The time base of the log

A record is stamped either by the kernel, when its datagram arrives, or by `get_psas_time`.
In every run the first kind has the time stamp of the datagram, whatever modules the message
goes through, and the second a reading of the clock (`stamped_step`, `seqn_of_mem_step`).

The kernel stamps by another clock than the one `utils_time_init` and `get_psas_time` read.
Both kinds are on one time base exactly if the clocks differ by whole periods of the
counter behind the stamps (`one_time_base_iff`).
-/

namespace FlightComputer

/-! ## Two clocks -/

theorem nanoseconds_clockMonotonic (u : ℤ) : (clockMonotonic u).nanoseconds = u := by
  show u / 10 ^ 9 * 10 ^ 9 + u % 10 ^ 9 = u
  omega

/-- What `get_psas_time` stamps. -/
theorem fromPsasTime_getPsasTime (start u : ℤ) :
    fromPsasTime (getPsasTime (utilsTimeInit start) u) = reading psasPeriod (u - start) := by
  rw [getPsasTime, fromPsasTime_toPsasTime, utilsTimeInit, nanoseconds_clockMonotonic,
    nanoseconds_clockMonotonic]

/-- What `demux` stamps. -/
theorem fromPsasTime_clockRealtime (start offset u : ℤ) :
    fromPsasTime (toPsasTime (utilsTimeInit start) (clockRealtime offset u)) =
      reading psasPeriod (u - start + offset) := by
  rw [fromPsasTime_toPsasTime, utilsTimeInit, clockRealtime, nanoseconds_clockMonotonic,
    nanoseconds_clockMonotonic, add_sub_right_comm]

/-- Within a period after the start, the difference of two stamps is the time between exactly
if the clocks are whole periods apart. -/
theorem stamp_difference_iff {start offset u₁ u₂ : ℤ} (h₁ : start ≤ u₁)
    (h₁' : u₁ - start < 2 ^ 48) (h₂ : start ≤ u₂) (h₂' : u₂ - start < 2 ^ 48) :
    (fromPsasTime (getPsasTime (utilsTimeInit start) u₂) : ℤ)
        - fromPsasTime (toPsasTime (utilsTimeInit start) (clockRealtime offset u₁)) = u₂ - u₁ ↔
      (2 ^ 48 : ℤ) ∣ offset := by
  have hperiod : (psasPeriod : ℤ) = 2 ^ 48 := by norm_num [psasPeriod]
  have hself₁ := reading_of_lt (M := psasPeriod) (t := u₁ - start) (by omega) (by omega)
  have hself₂ := reading_of_lt (M := psasPeriod) (t := u₂ - start) (by omega) (by omega)
  have hdvd := reading_add_eq_iff (M := psasPeriod) (by norm_num [psasPeriod]) (u₁ - start) offset
  rw [hperiod] at hdvd
  rw [fromPsasTime_getPsasTime, fromPsasTime_clockRealtime, ← hdvd]
  omega

/-! ## The records of the logger -/

namespace Logger

/-- What `get_psas_time` would write during a call. -/
def Event.clock : Event → Timestamp
  | .logWrite clock _ => clock
  | .logWriteDiskOnly clock _ => clock
  | .logTimeout clock => clock
  | .loggerFinal clock => clock

/-- The message a call logs. -/
def Event.message : Event → Option Message
  | .logWrite _ m => some m
  | .logWriteDiskOnly _ m => some m
  | .logTimeout _ => none
  | .loggerFinal _ => none

/-- What is written to the disk starts with a SEQN record of this stamp. -/
def StartsWithSEQN (clock : Timestamp) (bytes : Bytes) : Prop :=
  messageHeader (messageID 'S' 'E' 'Q' 'N') clock 4 <+: bytes

theorem startsWithSEQN_unique {t t' : Timestamp} {bytes : Bytes} (h : StartsWithSEQN t bytes)
    (h' : StartsWithSEQN t' bytes) : t = t' := by
  have hlen : (messageHeader (messageID 'S' 'E' 'Q' 'N') t 4).length =
      (messageHeader (messageID 'S' 'E' 'Q' 'N') t' 4).length := by
    simp only [messageHeader, List.length_append, Vector.length_toList]
  have heq := (List.prefix_of_prefix_length_le h h' hlen.le).eq_of_length hlen
  unfold messageHeader at heq
  have hstamp := List.append_cancel_left (List.append_cancel_right heq)
  exact Vector.toList_inj.mp hstamp

lemma seqn_of_mem_flushLog {clock : Timestamp} {s : State} {bytes : Bytes}
    (h : .writev .disk bytes ∈ (flushLog clock s).2) : StartsWithSEQN clock bytes := by
  unfold flushLog at h
  split_ifs at h
  · cases h
  · rcases List.mem_cons.mp h with heq | h
    · cases heq
      rw [StartsWithSEQN, List.append_assoc]
      exact List.prefix_append _ _
    · cases List.mem_singleton.mp h

lemma seqn_of_mem_ensureDiskLogSpace {clock : Timestamp} {len : ℕ} {s : State} {bytes : Bytes}
    (h : .writev .disk bytes ∈ (ensureDiskLogSpace clock len s).2) :
    StartsWithSEQN clock bytes := by
  unfold ensureDiskLogSpace at h
  split_ifs at h
  · exact seqn_of_mem_flushLog h
  · cases h

lemma seqn_of_mem_ensureNetLogSpace {clock : Timestamp} {len : ℕ} {s : State} {bytes : Bytes}
    (h : .writev .disk bytes ∈ (ensureNetLogSpace clock len s).2) :
    StartsWithSEQN clock bytes := by
  unfold ensureNetLogSpace at h
  dsimp only at h
  split_ifs at h
  · rcases List.mem_append.mp h with h | h
    · exact seqn_of_mem_ensureDiskLogSpace h
    · exact seqn_of_mem_flushLog h
  · exact seqn_of_mem_ensureDiskLogSpace h

/-- **SEQN records.** A flush stamps its record with the reading of the call that causes it. -/
theorem seqn_of_mem_step {s : State} {e : Event} {bytes : Bytes}
    (h : .writev .disk bytes ∈ (step s e).2) : StartsWithSEQN e.clock bytes := by
  cases e with
  | logWrite clock m =>
    rcases List.mem_append.mp h with h | h
    · exact seqn_of_mem_ensureNetLogSpace h
    · exact seqn_of_mem_ensureDiskLogSpace h
  | logWriteDiskOnly clock m => exact seqn_of_mem_ensureDiskLogSpace h
  | logTimeout clock => exact seqn_of_mem_flushLog h
  | loggerFinal clock =>
    rcases List.mem_append.mp h with h | h
    · exact seqn_of_mem_flushLog h
    · simp at h

end Logger

/-! ## The records of the system -/

namespace Main

open Receiver
open Ethmux (Packet Source WellFormed deliveries delivery)

variable {K : Type} (env : Env K)

/-- The records that `get_psas_time` stamps, SEQN apart. -/
def OwnID (ID : MessageID) : Prop :=
  ID = messageID 'M' 'E' 'S' 'G' ∨ ID = messageID 'V' 'E' 'R' 'S' ∨ ID = messageID 'R' 'O' 'L' 'L'

instance (ID : MessageID) : Decidable (OwnID ID) := inferInstanceAs (Decidable (_ ∨ _))

/-- The stamps of a call of the logger: a reading of the clock for a flush and for the records
stamped by `get_psas_time`, and `t` for the others. -/
def Stamped (t : Timestamp) : Output K → Prop
  | .log call => (∃ n, call.clock = env.clock n) ∧
      ∀ m ∈ call.message, (OwnID m.ID → ∃ n, m.timestamp = env.clock n) ∧
        (¬OwnID m.ID → m.timestamp = t)
  | .rsReceiveAdj _ => True
  | .respond _ => True

variable {env} in
lemma stamped_own {t : Timestamp} {n : ℕ} {m : Message} (hID : OwnID m.ID)
    (ht : ∃ n', m.timestamp = env.clock n') :
    Stamped env t (.log (.logWrite (env.clock n) m)) := by
  refine ⟨⟨n, rfl⟩, fun m' hm' => ?_⟩
  rw [← Option.some.inj hm']
  exact ⟨fun _ => ht, fun hother => absurd hID hother⟩

lemma stamped_admits (t : Timestamp) : Admits env (Stamped env t) where
  rsReceiveAdj := fun _ => trivial
  respond := fun _ => trivial
  signal := fun _ n' _ _ => stamped_own (Or.inl rfl) ⟨n', rfl⟩
  roll := fun _ n' _ hout => stamped_own (Or.inr (Or.inr hout.ID)) ⟨n', hout.timestamp⟩

lemma stamped_message {m : Message} (hID : ¬OwnID m.ID) :
    AdmitsMessage env (Stamped env m.timestamp) m := by
  intro n
  have hm : ∀ m' ∈ some m, (OwnID m'.ID → ∃ n, m'.timestamp = env.clock n) ∧
      (¬OwnID m'.ID → m'.timestamp = m.timestamp) := by
    intro m' hm'
    rw [← Option.some.inj hm']
    exact ⟨fun hown => absurd hown hID, fun _ => rfl⟩
  exact ⟨⟨⟨n, rfl⟩, hm⟩, ⟨⟨n, rfl⟩, hm⟩⟩

/-- The sources, and what the GPS framer makes of a stream, have other IDs. -/
theorem not_ownID_demuxType (type : Source) : ¬OwnID (Ethmux.demuxType type).ID := by
  cases type <;> decide

theorem not_ownID_venusID (b : UInt8) : ¬OwnID (Gps.venusID b) := by
  intro h
  have hsecond : (Gps.venusID b).get 1 = '8'.toUInt8 := rfl
  rcases h with h | h | h <;> rw [h] at hsecond <;> revert hsecond <;> decide

variable [Field K] [LinearOrder K]

/-- The frames of a chunk are stamped with the time of the chunk. -/
lemma stamped_cotsRawIn (m : Message) : (cotsRawIn env m).Calls (Stamped env m.timestamp) := by
  intro s
  apply calls_inOrder
  intro o ho
  obtain ⟨f, -, rfl⟩ := List.mem_map.mp ho
  exact calls_gpsDataOut env (stamped_admits env m.timestamp)
    (stamped_message env (not_ownID_venusID ((f.mem.drop 4).headD 0)))

/-- **The records of a datagram.** -/
theorem stamped_demux (p : Packet) :
    (demux env p).Calls (Stamped env (toPsasTime env.starttime p.ts)) := by
  have hadmits := stamped_admits env (toPsasTime env.starttime p.ts)
  intro s
  apply calls_inOrder
  intro o ho
  rcases Ethmux.mem_step env.starttime ho with
    ⟨expected, received, rfl⟩ | ⟨type, -, -, rfl⟩ | ⟨buffer, timestamp, rfl⟩ |
      ⟨buffer, timestamp, rfl⟩
  · have hID : ¬OwnID (messageID 'S' 'E' 'Q' 'E') := by decide
    apply calls_singleton
    apply calls_log
    intro n
    exact (stamped_message env hID n).1
  · by_cases hcots : type = .GPSCOTS
    · subst hcots
      exact calls_singleton (stamped_cotsRawIn env (delivery env.starttime .GPSCOTS p))
    · have hne := Ethmux.handler_ne_demuxedCOTS hcots
      exact calls_demuxed env hadmits (stamped_message env (not_ownID_demuxType type)) hne
  · exact calls_singleton (calls_arm env hadmits _)
  · exact calls_singleton (calls_rcRawTestrc env hadmits buffer)

/-- **One step.** Whatever it is stamped with otherwise, a datagram decides `t`. -/
theorem stamped_step (s : State K) (e : Event K) (t : Timestamp)
    (ht : ∀ p, e = .datagram p → t = toPsasTime env.starttime p.ts) :
    ∀ o ∈ ((machine env).step s e).2, Stamped env t o := by
  have hadmits := stamped_admits env t
  cases e with
  | datagram p =>
    rw [ht p rfl]
    exact stamped_demux env p s
  | logTimeout =>
    have hflush : (logTimeout env).Calls (Stamped env t) := by
      apply calls_log
      intro n
      exact ⟨⟨n, rfl⟩, fun m hm => by cases hm⟩
    exact hflush s
  | versionCallback reply =>
    have hversion : (versionCallback env reply).Calls (Stamped env t) := by
      apply calls_singleton
      apply calls_getPsasTime
      intro n'
      apply calls_log
      intro n
      exact stamped_own (Or.inr (Or.inl rfl)) ⟨n', rfl⟩
    exact hversion s
  | armSignal armed =>
    apply calls_armSendSignal env hadmits
    cases armed with
    | true => exact Or.inl rfl
    | false => exact Or.inr rfl
  | setCanardAngle degrees => exact calls_setCanardAngle env hadmits degrees s

/-! ## Runs -/

/-- The instants of a run, and how far `CLOCK_REALTIME` is ahead of `CLOCK_MONOTONIC`. -/
structure Clocks where
  /-- when `utils_time_init` reads the clock -/
  start : ℤ
  /-- when `get_psas_time` does -/
  instant : ℕ → ℤ
  offset : ℤ

/-- The surroundings with these clocks. -/
def Env.ofClocks (c : Clocks) (libm : Libm K) (doubleBits : K → ℕ) : Env K where
  starttime := utilsTimeInit c.start
  clock := fun n => FlightComputer.getPsasTime (utilsTimeInit c.start) (c.instant n)
  libm := libm
  doubleBits := doubleBits

/-- In the run, a record of the datagram is stamped `t`. -/
def DatagramStamp (es : List (Event K)) (p : Packet) (t : Timestamp) : Prop :=
  ∃ pre post, es = pre ++ .datagram p :: post ∧
    ∃ call ∈ logCalls ((machine env).step ((machine env).run pre) (.datagram p)).2,
      ∃ m ∈ call.message, ¬OwnID m.ID ∧ m.timestamp = t

/-- In the run, a MESG, VERS or ROLL record is stamped `t`, or a SEQN record is, also if the
last flush is that of `logger_final`. -/
def OwnStamp (es : List (Event K)) (t : Timestamp) : Prop :=
  (∃ call ∈ logCalls ((machine env).outputs es), ∃ m ∈ call.message,
      OwnID m.ID ∧ m.timestamp = t) ∨
    ∃ n bytes, .writev .disk bytes ∈ Logger.machine.outputs
        (logCalls ((machine env).outputs es) ++ [.loggerFinal (env.clock n)]) ∧
      Logger.StartsWithSEQN t bytes

theorem datagramStamp_eq {es : List (Event K)} {p : Packet} {t : Timestamp}
    (h : DatagramStamp env es p t) : t = toPsasTime env.starttime p.ts := by
  obtain ⟨pre, post, -, call, hcall, m, hm, hID, rfl⟩ := h
  have hstep := stamped_step env ((machine env).run pre) (.datagram p)
    (toPsasTime env.starttime p.ts) fun p' hp' => by cases hp'; rfl
  exact ((hstep _ (mem_logCalls.mp hcall)).2 m hm).2 hID

/-- Every call of a run is stamped somehow. -/
theorem stamped_run (es : List (Event K)) :
    ∀ o ∈ (machine env).outputs es, ∃ t, Stamped env t o := by
  rw [Machine.forall_mem_outputs_iff]
  intro pre e post _ o ho
  by_cases hdatagram : ∃ p, e = .datagram p
  · obtain ⟨p, rfl⟩ := hdatagram
    exact ⟨_, stamped_step env _ _ _ (fun p' hp' => by cases hp'; rfl) o ho⟩
  · exact ⟨env.clock 0, stamped_step env _ e _ (fun p hp => absurd ⟨p, hp⟩ hdatagram) o ho⟩

theorem ownStamp_eq {es : List (Event K)} {t : Timestamp} (h : OwnStamp env es t) :
    ∃ n, t = env.clock n := by
  rcases h with ⟨call, hcall, m, hm, hID, rfl⟩ | ⟨n, bytes, hbytes, hseqn⟩
  · obtain ⟨t', ht'⟩ := stamped_run env es _ (mem_logCalls.mp hcall)
    exact (ht'.2 m hm).1 hID
  · have hcalls : ∀ call ∈ logCalls ((machine env).outputs es) ++ [.loggerFinal (env.clock n)],
        ∃ n, call.clock = env.clock n := by
      rw [List.forall_mem_append]
      constructor
      · intro call hcall
        obtain ⟨t', ht'⟩ := stamped_run env es _ (mem_logCalls.mp hcall)
        exact ht'.1
      · intro call hcall
        rw [List.mem_singleton.mp hcall]
        exact ⟨n, rfl⟩
    have hflush : ∀ o ∈ Logger.machine.outputs
          (logCalls ((machine env).outputs es) ++ [.loggerFinal (env.clock n)]),
        ∀ bytes, o = .writev .disk bytes → ∃ n, Logger.StartsWithSEQN (env.clock n) bytes := by
      rw [Machine.forall_mem_outputs_iff]
      rintro pre call post hsplit o ho bytes rfl
      obtain ⟨n', hn'⟩ := hcalls call (by simp [hsplit])
      exact ⟨n', hn' ▸ Logger.seqn_of_mem_step ho⟩
    obtain ⟨n', hn'⟩ := hflush _ hbytes bytes rfl
    exact ⟨n', Logger.startsWithSEQN_unique hseqn hn'⟩

omit env in
/-- **One time base.** In every run, whatever the start, a datagram received at `u₁` stamps its
records by `CLOCK_REALTIME`, and the other records are stamped by `CLOCK_MONOTONIC`. Within a
period after the start, the stamps of both differ by the time between exactly if the clocks
are whole periods apart. -/
theorem one_time_base_iff (c : Clocks) (libm : Libm K) (doubleBits : K → ℕ)
    (es : List (Event K)) (p : Packet) (u₁ : ℤ) (hp : p.ts = clockRealtime c.offset u₁)
    (t₁ t₂ : Timestamp) (h₁ : DatagramStamp (Env.ofClocks c libm doubleBits) es p t₁)
    (h₂ : OwnStamp (Env.ofClocks c libm doubleBits) es t₂) :
    (∃ n, t₂ = FlightComputer.getPsasTime (utilsTimeInit c.start) (c.instant n)) ∧
      ∀ n, t₂ = FlightComputer.getPsasTime (utilsTimeInit c.start) (c.instant n) →
        c.start ≤ u₁ → u₁ - c.start < 2 ^ 48 →
        c.start ≤ c.instant n → c.instant n - c.start < 2 ^ 48 →
          ((fromPsasTime t₂ : ℤ) - fromPsasTime t₁ = c.instant n - u₁ ↔
            (2 ^ 48 : ℤ) ∣ c.offset) := by
  have ht₁ := datagramStamp_eq _ h₁
  rw [hp] at ht₁
  refine ⟨ownStamp_eq _ h₂, fun n ht₂ hu₁ hu₁' hu₂ hu₂' => ?_⟩
  rw [ht₁, ht₂]
  exact stamp_difference_iff hu₁ hu₁' hu₂ hu₂'

/-- The clock is read every second, and the kernel's clock is ahead. -/
def everySecond (offset : ℤ) : Clocks := ⟨0, fun n => (n + 1) * 10 ^ 9, offset⟩

def everySecondEnv (offset : ℤ) : Env ℚ := Env.ofClocks (everySecond offset) ⟨id, id, 3⟩ fun _ => 0

/-- A datagram received after half a second. -/
def earlyDatagram (offset : ℤ) : Packet :=
  { Ethmux.datagram Ethmux.JGPS_PORT [0, 0, 0, 0, 7] with ts := clockRealtime offset 500000000 }

/-- The datagram is logged, then an arm signal. -/
def earlyRun (offset : ℤ) : List (Event ℚ) := [.datagram (earlyDatagram offset), .armSignal true]

/-- The record of the datagram, and that of the signal, whichever of two clocks the kernel has. -/
lemma calls_earlyRun : ∀ offset ∈ [0, 10 ^ 9],
    .logWriteDiskOnly ((everySecondEnv offset).clock 0)
        (delivery (utilsTimeInit 0) .JGPS (earlyDatagram offset)) ∈
      logCalls ((machine (everySecondEnv offset)).step init (.datagram (earlyDatagram offset))).2 ∧
    Logger.logReceiveArm ((everySecondEnv offset).clock 3) ((everySecondEnv offset).clock 2)
        "ARM" ∈
      logCalls ((machine (everySecondEnv offset)).outputs (earlyRun offset)) := by
  decide +kernel

lemma datagramStamp_earlyRun {offset : ℤ} (h : offset ∈ [0, 10 ^ 9]) :
    DatagramStamp (everySecondEnv offset) (earlyRun offset) (earlyDatagram offset)
      (toPsasTime (utilsTimeInit 0) (clockRealtime offset 500000000)) :=
  ⟨[], [.armSignal true], rfl, _, (calls_earlyRun offset h).1, _, rfl,
    not_ownID_demuxType .JGPS, rfl⟩

lemma ownStamp_earlyRun {offset : ℤ} (h : offset ∈ [0, 10 ^ 9]) :
    OwnStamp (everySecondEnv offset) (earlyRun offset) ((everySecondEnv offset).clock 2) :=
  Or.inl ⟨_, (calls_earlyRun offset h).2, _, rfl, Or.inl rfl, rfl⟩

/-- With one clock, the signal is stamped two and a half seconds after the datagram. -/
theorem one_time_base_same_clock :
    (fromPsasTime ((everySecondEnv 0).clock 2) : ℤ)
      - fromPsasTime (toPsasTime (utilsTimeInit 0) (clockRealtime 0 500000000)) =
        3000000000 - 500000000 := by
  have h := (one_time_base_iff (everySecond 0) ⟨id, id, 3⟩ (fun _ : ℚ => 0) (earlyRun 0)
    (earlyDatagram 0) 500000000 rfl _ _ (datagramStamp_earlyRun (by decide))
    (ownStamp_earlyRun (by decide))).2 2 rfl (by decide) (by decide) (by decide) (by decide)
  exact h.mpr (by decide)

/-- With the kernel's clock a second ahead, the stamps are on two time bases. -/
theorem two_time_bases :
    ¬∀ (c : Clocks) (libm : Libm ℚ) (doubleBits : ℚ → ℕ) (es : List (Event ℚ)) (p : Packet)
      (u₁ : ℤ), p.ts = clockRealtime c.offset u₁ → ∀ t₁ t₂,
      DatagramStamp (Env.ofClocks c libm doubleBits) es p t₁ →
      OwnStamp (Env.ofClocks c libm doubleBits) es t₂ →
      ∀ n, t₂ = FlightComputer.getPsasTime (utilsTimeInit c.start) (c.instant n) →
        c.start ≤ u₁ → u₁ - c.start < 2 ^ 48 →
        c.start ≤ c.instant n → c.instant n - c.start < 2 ^ 48 →
          (fromPsasTime t₂ : ℤ) - fromPsasTime t₁ = c.instant n - u₁ := by
  intro h
  have hdifference := h (everySecond (10 ^ 9)) ⟨id, id, 3⟩ (fun _ => 0) (earlyRun (10 ^ 9))
    (earlyDatagram (10 ^ 9)) 500000000 rfl _ _ (datagramStamp_earlyRun (by decide))
    (ownStamp_earlyRun (by decide)) 2 rfl (by decide) (by decide) (by decide) (by decide)
  have hdvd : (2 ^ 48 : ℤ) ∣ 10 ^ 9 :=
    (stamp_difference_iff (by decide) (by decide) (by decide) (by decide)).mp hdifference
  revert hdvd
  decide

end Main
end FlightComputer
