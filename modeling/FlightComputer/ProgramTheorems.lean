import FlightComputer.MainTheorems
import FlightComputer.Program

/-!
# What the process writes

The process is `Main` with the logger and the servo behind it, so its writes are those of the
logger on the calls `Main` makes of it (`loggerCalls_session`), and those of the servo on the
adjustments it is sent (`servoData_session`). As long as the records fit, the log file is that
of a journal of all that `Main` has logged.

What the buffers of the process cannot hold, and what a failing write loses, is left out of the
results on whole runs: they are about the runs that are `Regular`.
-/

namespace FlightComputer

/-! ## The file of a journal -/

namespace Logger

/-- The records in the log file: each segment with its SEQN record in front. -/
def Journal.fileRecords (j : Journal) : List Record :=
  j.closed.zipIdx.flatMap fun (seg, n) => seqnRecord seg.stamp n :: allRecords seg.entries

lemma diskBytes_of_represents {j : Journal} {s : State} {out : List Output}
    (h : Represents j s out) : diskBytes out = recordCodec.encodeAll j.fileRecords := by
  rw [diskBytes, writesTo, h.writes]
  exact diskBytes_segments _

/-- What is not read off SEQN records, is read off the entries that are closed. -/
lemma fileRecords_filterMap {α : Type} {j : Journal} {read : Record → Option α}
    (hread : ∀ stamp n, read (seqnRecord stamp n) = none) :
    j.fileRecords.filterMap read =
      (j.closed.flatMap fun seg => allRecords seg.entries).filterMap read := by
  unfold Journal.fileRecords
  generalize 0 = k
  induction j.closed generalizing k with
  | nil => rfl
  | cons seg closed ih =>
    rw [List.zipIdx_cons, List.flatMap_cons, List.flatMap_cons, List.filterMap_append,
      List.filterMap_append, ih, List.filterMap_cons_none (hread _ _)]

/-- Without the SEQN records, the file holds the entries that are closed. -/
lemma fileRecords_filter {j : Journal} {p : Record → Bool}
    (hp : ∀ stamp n, p (seqnRecord stamp n) = false) :
    j.fileRecords.filter p = (j.closed.flatMap fun seg => allRecords seg.entries).filter p := by
  rw [← List.filterMap_eq_filter]
  exact fileRecords_filterMap fun stamp n => by simp [Option.guard, hp]

end Logger

namespace Program

open Main (logCalls)

variable {K : Type} [Field K] [LinearOrder K] [FloorSemiring K] (env : Main.Env K)

/-! ## The modules in front -/

omit [FloorSemiring K] in
theorem run_front (es : List Event) :
    (front env).run es = (Main.machine env).run (es.map Event.toMain) := by
  induction es using List.reverseRecOn with
  | nil => rfl
  | append_singleton es e ih =>
    rw [Machine.run_snoc, ih, List.map_append, List.map_singleton, Machine.run_snoc]
    rfl

omit [FloorSemiring K] in
theorem outputs_front (es : List Event) :
    (front env).outputs es = (Main.machine env).outputs (es.map Event.toMain) := by
  induction es using List.reverseRecOn with
  | nil => rfl
  | append_singleton es e ih =>
    rw [Machine.outputs_snoc, run_front, ih, List.map_append, List.map_singleton,
      Machine.outputs_snoc]
    rfl

/-- The calls of the logger and the servo, over a run. -/
def mainOutputs (es : List Event) : List (Main.Output K) :=
  (Main.machine env).outputs (es.map Event.toMain)

theorem machine_runs (es : List Event) :
    (machine env).run es =
        ((Main.machine env).run (es.map Event.toMain), devices.run (mainOutputs env es)) ∧
      (machine env).outputs es = devices.outputs (mainOutputs env es) := by
  unfold machine mainOutputs
  rw [Machine.run_cascade, Machine.outputs_cascade, run_front, outputs_front]
  exact ⟨rfl, rfl⟩

/-! ## The devices, one by one -/

/-- A call of the logger. -/
def logCall : Main.Output K → Option Logger.Event
  | .log call => some call
  | _ => none

/-- A call of the servo. -/
def adjustment : Main.Output K → Option (ROLLMessage K)
  | .rsReceiveAdj adj => some adj
  | _ => none

def loggerCall : Syscall → Option Logger.Output
  | .logger o => some o
  | _ => none

def servoWrite : Syscall → Option (Option Bytes)
  | .servo data => some data
  | _ => none

omit [Field K] [LinearOrder K] [FloorSemiring K] in
lemma filterMap_logCall (out : List (Main.Output K)) : out.filterMap logCall = logCalls out := by
  apply List.filterMap_congr
  intro o _
  cases o <;> rfl

omit [Field K] [LinearOrder K] [FloorSemiring K] in
lemma filterMap_loggerCall (out : List Syscall) : out.filterMap loggerCall = loggerCalls out := by
  apply List.filterMap_congr
  intro o _
  cases o <;> rfl

lemma filterMap_servoWrite (out : List Syscall) : out.filterMap servoWrite = servoData out := by
  apply List.filterMap_congr
  intro o _
  cases o <;> rfl

/-- Calls of one kind, read back. -/
lemma filterMap_map_of_some {α β : Type} (wrap : α → β) (read : β → Option α)
    (h : ∀ a, read (wrap a) = some a) (as : List α) : (as.map wrap).filterMap read = as := by
  rw [List.filterMap_map]
  exact (List.filterMap_congr fun a _ => h a).trans List.filterMap_some

/-- Calls of another kind. -/
lemma filterMap_map_of_none {α β γ : Type} (wrap : α → β) (read : β → Option γ)
    (h : ∀ a, read (wrap a) = none) (as : List α) : (as.map wrap).filterMap read = [] := by
  rw [List.filterMap_map]
  exact List.filterMap_eq_nil_iff.mpr fun a _ => h a

/-- The logger sees its own calls only. -/
lemma devices_logger : (devices (K := K)).Projects Logger.machine Devices.logger
    (fun _ o => (logCall o).toList) loggerCall where
  init := rfl
  after := fun s o => by cases o <;> rfl
  emits := fun s o => by
    cases o with
    | log call =>
      have hread := filterMap_map_of_some Syscall.logger loggerCall (fun _ => rfl)
        (Logger.step s.logger call).2
      exact hread.trans (List.append_nil _).symm
    | rsReceiveAdj adj => exact filterMap_map_of_none Syscall.servo loggerCall (fun _ => rfl) _
    | respond message => rfl

/-- So does the servo. -/
lemma devices_servo : (devices (K := K)).Projects RollServo.machine Devices.seq
    (fun _ o => (adjustment o).toList) servoWrite where
  init := rfl
  after := fun s o => by cases o <;> rfl
  emits := fun s o => by
    cases o with
    | log call => exact filterMap_map_of_none Syscall.logger servoWrite (fun _ => rfl) _
    | rsReceiveAdj adj =>
      have hread := filterMap_map_of_some Syscall.servo servoWrite (fun _ => rfl)
        (RollServo.step s.seq adj).2
      exact hread.trans (List.append_nil _).symm
    | respond message => rfl

theorem logger_outputs (es : List Event) :
    ((machine env).run es).2.logger = Logger.machine.run (logCalls (mainOutputs env es)) ∧
      loggerCalls ((machine env).outputs es) =
        Logger.machine.outputs (logCalls (mainOutputs env es)) := by
  have h := devices_logger.runs (mainOutputs env es)
  rw [Machine.observed_const, filterMap_logCall] at h
  rw [(machine_runs env es).1, (machine_runs env es).2, ← filterMap_loggerCall]
  exact h

/-- **The writes of the logger.** -/
theorem loggerCalls_session (es : List Event) :
    loggerCalls (session env es) = Logger.machine.outputs (logCalls (mainOutputs env es) ++
      [.loggerFinal (env.clock ((Main.machine env).run (es.map Event.toMain)).reads)]) := by
  obtain ⟨hstate, hcalls⟩ := logger_outputs env es
  have hfinal : loggerCalls (final env ((machine env).run es)) =
      (Logger.loggerFinal (env.clock ((machine env).run es).1.reads)
        ((machine env).run es).2.logger).2 := by
    rw [← filterMap_loggerCall]
    exact filterMap_map_of_some Syscall.logger loggerCall (fun _ => rfl) _
  have happend : loggerCalls (session env es) =
      loggerCalls ((machine env).outputs es) ++ loggerCalls (final env ((machine env).run es)) :=
    List.filterMap_append
  rw [happend, hfinal, hcalls, hstate, Machine.outputs_snoc, (machine_runs env es).1]
  rfl

/-- **The writes of the servo.** -/
theorem servoData_outputs (es : List Event) :
    servoData ((machine env).outputs es) =
      RollServo.machine.outputs ((mainOutputs env es).filterMap adjustment) := by
  have h := (devices_servo.runs (mainOutputs env es)).2
  rw [Machine.observed_const] at h
  rw [(machine_runs env es).2, ← filterMap_servoWrite, h]

/-- A reply to a command. -/
def response : Main.Output K → Option String
  | .respond message => some message
  | _ => none

/-- One call of the devices. -/
lemma replies_step (s : Devices) (o : Main.Output K) :
    replies (devices.step s o).2 = (response o).toList := by
  cases o with
  | log call => exact filterMap_map_of_none Syscall.logger _ (fun _ => rfl) _
  | rsReceiveAdj adj => exact filterMap_map_of_none Syscall.servo _ (fun _ => rfl) _
  | respond message => rfl

lemma replies_emits (s : Devices) (out : List (Main.Output K)) :
    replies (devices.emits s out) = out.filterMap response := by
  induction out generalizing s with
  | nil => rfl
  | cons o out ih =>
    have happend : replies (devices.emits s (o :: out)) =
        replies (devices.step s o).2 ++ replies (devices.emits (devices.step s o).1 out) :=
      List.filterMap_append
    rw [happend, replies_step, ih]
    cases o <;> rfl

/-- **The replies** are passed through. -/
theorem replies_session (es : List Event) :
    replies (session env es) = (mainOutputs env es).filterMap response := by
  have hfinal : replies (final env ((machine env).run es)) = [] :=
    filterMap_map_of_none Syscall.logger _ (fun _ => rfl) _
  have hsession : replies (session env es) = replies ((machine env).outputs es) ++
      replies (final env ((machine env).run es)) := List.filterMap_append
  rw [hsession, hfinal, List.append_nil, (machine_runs env es).2]
  exact replies_emits _ _

/-! ## Writes that succeed -/

omit [Field K] [LinearOrder K] [FloorSemiring K] in
/-- If every call takes what it is given, all of it is sent. -/
lemma sent_of_ok {ok : ℕ → Bool} (h : ∀ n, ok n = true) (calls : List Syscall) :
    sent ok calls = calls := by
  have hall : calls.zipIdx.filter (fun c => ok c.2) = calls.zipIdx :=
    List.filter_eq_self.mpr fun c _ => h c.2
  rw [sent, hall, List.zipIdx_map_fst]

/-! ## The journal of a run -/

lemma logFile_eq (out : List Syscall) : logFile out = Logger.diskBytes (loggerCalls out) := by
  unfold logFile Logger.diskBytes Logger.writesTo Logger.writevs
  rw [List.filterMap_filterMap]
  congr 1
  apply List.filterMap_congr
  intro o _
  cases o with
  | writev fd bytes => cases fd <;> rfl
  | close fd => rfl

lemma telemetry_eq (out : List Syscall) : telemetry out = Logger.writesTo .net (loggerCalls out) := by
  unfold telemetry Logger.writesTo Logger.writevs
  rw [List.filterMap_filterMap]
  apply List.filterMap_congr
  intro o _
  cases o with
  | writev fd bytes => cases fd <;> rfl
  | close fd => rfl

/-- No GPS frame without a packet is found in the run. -/
def NoEmptyPackets (es : List Event) : Prop :=
  (front env).Along (fun s e => Main.NoEmptyPacket env s e.toMain) (front env).init es

omit [FloorSemiring K] in
/-- Then every record fits, and only then. -/
lemma fits_iff_noEmptyPackets (es : List Event) :
    (∀ call ∈ logCalls (mainOutputs env es), Logger.Fits call) ↔ NoEmptyPackets env es := by
  rw [Main.forall_mem_logCalls, mainOutputs, ← outputs_front, Machine.outputs,
    Machine.forall_mem_emits_iff]
  exact Machine.along_congr fun s e _ => Main.fits_step_iff env s e.toMain

/-- The entries `Main` logs. -/
def entries (es : List Event) : List Logger.Entry := Logger.logged (logCalls (mainOutputs env es))

/-- **A running process** stands for a journal of all it has logged. -/
theorem exists_journal {es : List Event} (h : NoEmptyPackets env es) :
    ∃ j : Logger.Journal, Logger.Represents j ((machine env).run es).2.logger
        (loggerCalls ((machine env).outputs es)) ∧ j.entries = entries env es := by
  obtain ⟨j, hj, hentries⟩ := Logger.run_represents _ ((fits_iff_noEmptyPackets env es).mpr h)
  rw [(logger_outputs env es).1, (logger_outputs env es).2]
  exact ⟨j, hj, hentries⟩

/-- **A process that has ended** stands for one with nothing pending. -/
theorem exists_journal_session {es : List Event} (h : NoEmptyPackets env es) :
    ∃ (j : Logger.Journal) (s : Logger.State), Logger.Represents j s
        (loggerCalls (session env es)) ∧ j.entries = entries env es ∧ j.pending = [] := by
  have hfit := (fits_iff_noEmptyPackets env es).mpr h
  rw [loggerCalls_session]
  obtain ⟨j, hj, hentries⟩ := Logger.run_represents
    (logCalls (mainOutputs env es) ++ [.loggerFinal
      (env.clock ((Main.machine env).run (es.map Event.toMain)).reads)])
    (List.forall_mem_append.mpr ⟨hfit, by
      intro call hcall
      rw [List.mem_singleton.mp hcall]
      trivial⟩)
  refine ⟨j, _, hj, ?_, Logger.pending_of_final _ _ hfit hj⟩
  rw [hentries, Logger.logged, List.flatMap_append, List.flatMap_singleton]
  exact List.append_nil _

/-! ## Regular runs -/

/-- **What the results on whole runs take for granted.** The COTS GPS datagrams that are passed on
carry no more than the buffer of the framer holds, no frame in them is without a packet, and
every write takes all it is given. -/
structure Regular (ok : ℕ → Bool) (es : List Event) : Prop where
  chunks : (front env).Along
    (fun s e => Main.OnChunk env (fun m => m.dataLength.toNat ≤ Gps.sizeofBuf) s e.toMain)
    (front env).init es
  packets : NoEmptyPackets env es
  writes : ∀ n, ok n = true

omit [FloorSemiring K] in
/-- Nothing need be checked of the datagrams that are not from the GPS. -/
lemma regular_of_no_chunk {ok : ℕ → Bool} {es : List Event}
    (hes : ∀ p ∈ packets es, ¬Ethmux.WellFormed .GPSCOTS p) (hok : ∀ n, ok n = true) :
    Regular env ok es := by
  have hchunk : ∀ P : Main.State K → Message → Prop, (front env).Along
      (fun s e => Main.OnChunk env (P s) s e.toMain) (front env).init es := by
    intro P
    rw [Machine.along_iff]
    rintro pre e post rfl
    cases e with
    | datagram p => exact fun hwell => absurd hwell (hes p (by simp [packets]))
    | logTimeout => trivial
    | versionCallback reply => trivial
  exact ⟨hchunk _, hchunk _, hok⟩

omit [FloorSemiring K] in
/-- What has happened of a regular run is one. -/
lemma Regular.left {ok : ℕ → Bool} {es fs : List Event} (h : Regular env ok (es ++ fs)) :
    Regular env ok es :=
  ⟨((Machine.along_append ..).mp h.chunks).1, ((Machine.along_append ..).mp h.packets).1,
    h.writes⟩

end Program
end FlightComputer
