import FlightComputer.ProgramTheorems
import FlightComputer.SensorTheorems
import FlightComputer.TimeBaseTheorems
import FlightComputer.Utils.Truncation
import Mathlib.Data.Rat.Floor

/-!
# The flight recorder

What the log file says about a flight. `recorder` is what it should hold of the network: the
messages `demux` hands over and reports, in their order, and of the GPS stream the frames. It
knows the datagrams only. Whatever the other modules do, the records of the log that are none
of the process itself are those of the recorder (`main_recorder`).
-/

namespace FlightComputer

open Ethmux (Packet Source WellFormed deliveries delivery numbers)
open Logger (Record Entry recordOf recordCodec encodeRecord)

/-! ## What the network has to be recorded of -/

/-- The records for a call of `demux`: of a chunk of the GPS stream the frames it completes. -/
def recorded (s : Gps.State) : Ethmux.Output → Gps.State × List Record
  | .demuxed .demuxedCOTS m =>
    ((Gps.cotsRawIn m s).1, (Gps.cotsRawIn m s).2.map fun o => recordOf o.message)
  | .demuxed _ m => (s, [recordOf m])
  | .sequencedError m => (s, [recordOf m])
  | .demuxedARM _ _ => (s, [])
  | .demuxedRC _ _ => (s, [])

def framer : Machine Gps.State Ethmux.Output Record := ⟨[], recorded⟩

/-- The records of the datagrams. -/
def recorder (starttime : Timespec) : Machine (Ethmux.State × Gps.State) Packet Record :=
  (Ethmux.machine starttime).cascade framer

/-- What is handed over is the datagram without its sequence number. -/
theorem Ethmux.payload_delivery (starttime : Timespec) (src : Source) (p : Packet) :
    (delivery starttime src p).payload = p.received.drop 4 := by
  have hlength : (delivery starttime src p).dataLength.toNat = (p.received.drop 4).length := by
    rw [Ethmux.toNat_dataLength_delivery, List.length_drop]
  show memread (p.received.drop 4) _ = _
  rw [hlength, memread_length]

theorem recorded_of_ne {handler : Ethmux.Handler} (h : handler ≠ .demuxedCOTS) (m : Message)
    (s : Gps.State) : recorded s (.demuxed handler m) = (s, [recordOf m]) := by
  cases handler <;> first | rfl | exact absurd rfl h

namespace Main

open Receiver

variable {K : Type}

/-- The message a call logs. -/
def loggedMessage : Output K → Option Message
  | .log call => call.message
  | _ => none

/-- The record a call logs, unless it is one of the process itself. -/
def networkRecord (o : Output K) : Option Record :=
  ((loggedMessage o).filter fun m => ¬OwnID m.ID).map recordOf

lemma networkRecord_logWrite {m : Message} (h : ¬OwnID m.ID) (clock : Timestamp) :
    networkRecord (.log (.logWrite clock m) : Output K) = some (recordOf m) := by
  simp [networkRecord, loggedMessage, Logger.Event.message, Option.filter, h]

lemma networkRecord_logWriteDiskOnly {m : Message} (h : ¬OwnID m.ID) (clock : Timestamp) :
    networkRecord (.log (.logWriteDiskOnly clock m) : Output K) = some (recordOf m) := by
  simp [networkRecord, loggedMessage, Logger.Event.message, Option.filter, h]

lemma networkRecord_of_own {m : Message} (h : OwnID m.ID) (clock : Timestamp) :
    networkRecord (.log (.logWrite clock m) : Output K) = none := by
  simp [networkRecord, loggedMessage, Logger.Event.message, Option.filter, h]

variable (env : Env K)

/-- Signals, ROLL messages and replies are of the process itself. -/
lemma silent_admits : Admits env fun o => networkRecord o = none where
  rsReceiveAdj := fun _ => rfl
  respond := fun _ => rfl
  signal := fun _ _ _ _ => networkRecord_of_own (Or.inl rfl) _
  roll := fun _ _ _ hout => networkRecord_of_own (Or.inr (Or.inr hout.ID)) _

lemma tells_logWrite {m : Message} (h : ¬OwnID m.ID) :
    (logWrite env m).Tells networkRecord [recordOf m] := by
  intro s
  show [Output.log (.logWrite (env.clock s.reads) m)].filterMap networkRecord = _
  rw [List.filterMap_cons_some (networkRecord_logWrite h _), List.filterMap_nil]

lemma tells_filterReceive {m : Message} (h : ¬OwnID m.ID) :
    (filterReceive env m).Tells networkRecord [recordOf m] := by
  unfold filterReceive
  cases Filter.filterReceive m with
  | filterToGround => exact tells_singleton (tells_logWrite env h)
  | filterToDisk =>
    apply tells_singleton
    intro s
    show [Output.log (.logWriteDiskOnly (env.clock s.reads) m)].filterMap networkRecord = _
    rw [List.filterMap_cons_some (networkRecord_logWriteDiskOnly h _), List.filterMap_nil]

variable [Field K] [LinearOrder K]

/-- What is called for the check and the servo is not recorded here. -/
lemma tells_arm (event : Arm.Event) : (arm env event).Tells networkRecord [] :=
  tells_nil_of_calls (calls_arm env (silent_admits env) event)

lemma tells_gpsDataOut {m : Message} (h : ¬OwnID m.ID) :
    (gpsDataOut env m).Tells networkRecord [recordOf m] :=
  tells_cons (tells_arm env _) (tells_singleton (tells_filterReceive env h))

/-- A message to any receivers but the GPS framer is recorded once. -/
lemma tells_demuxed {m : Message} (h : ¬OwnID m.ID) {handler : Ethmux.Handler}
    (hne : handler ≠ .demuxedCOTS) : (demuxed env m handler).Tells networkRecord [recordOf m] := by
  have hlog := tells_logWrite env h
  cases handler with
  | demuxedADIS =>
    have hstate : (stateReceiveImu env m).Tells networkRecord [] :=
      tells_nil_of_calls (calls_stateReceiveImu env (silent_admits env) m)
    exact tells_cons hlog (tells_cons (tells_arm env _) (tells_singleton hstate))
  | demuxedRNHUMB =>
    have humb : (rcRawUmb env m).Tells networkRecord [] :=
      tells_nil_of_calls (calls_rcRawUmb env (silent_admits env) m)
    exact tells_cons humb (tells_singleton hlog)
  | demuxedJGPS => exact tells_singleton (tells_filterReceive env h)
  | demuxedCOTS => exact absurd rfl hne
  | demuxedMPU | demuxedMPL | demuxedBMP | demuxedRNH | demuxedFCFH => exact tells_singleton hlog

/-- Of a chunk of the GPS stream the frames are. -/
lemma tells_cotsRawIn (m : Message) (s : State K) :
    (cotsRawIn env m s).2.filterMap networkRecord =
      (Gps.cotsRawIn m s.gps).2.map fun o => recordOf o.message := by
  have hframes : (inOrder ((Gps.cotsRawIn m s.gps).2.map fun o =>
      gpsDataOut env o.message)).Tells networkRecord
        ((Gps.cotsRawIn m s.gps).2.flatMap fun o => [recordOf o.message]) := by
    apply tells_inOrder
    intro o ho
    obtain ⟨f, -, rfl⟩ := List.mem_map.mp ho
    exact tells_gpsDataOut env (not_ownID_venusID ((f.mem.drop 4).headD 0))
  rw [List.map_eq_flatMap]
  exact hframes _

/-- **One call of `demux`.** -/
lemma record_ethOutput {p : Packet} {t : Ethmux.State} {o : Ethmux.Output}
    (ho : o ∈ (Ethmux.demux env.starttime p t).2) (s : State K) :
    (ethOutput env o s).1.gps = (recorded s.gps o).1 ∧
      (ethOutput env o s).1.ethmux = s.ethmux ∧
      (ethOutput env o s).2.filterMap networkRecord = (recorded s.gps o).2 := by
  rcases Ethmux.mem_step env.starttime ho with
    ⟨expected, received, rfl⟩ | ⟨type, -, -, rfl⟩ | ⟨buffer, timestamp, rfl⟩ |
      ⟨buffer, timestamp, rfl⟩
  · -- a report is logged as it is
    have hID : ¬OwnID (messageID 'S' 'E' 'Q' 'E') := by decide
    refine ⟨rfl, rfl, ?_⟩
    exact tells_singleton (tells_logWrite env hID) s
  · have hID := not_ownID_demuxType type
    by_cases hcots : type = .GPSCOTS
    · -- a chunk: the framer takes its step, and what it sends on is recorded
      subst hcots
      have hsensors := sensors_cotsRawIn env (delivery env.starttime .GPSCOTS p) s
      refine ⟨congrArg Sensors.gps hsensors, congrArg Sensors.ethmux hsensors, ?_⟩
      show ((cotsRawIn env (delivery env.starttime .GPSCOTS p) s).2 ++ []).filterMap _ = _
      rw [List.append_nil, tells_cotsRawIn]
      rfl
    · -- any other message is recorded, and the framer does not see it
      have hne := Ethmux.handler_ne_demuxedCOTS hcots
      have hfeeds := feeds_demuxed env (delivery env.starttime type p) hne s
      rw [armSide_after] at hfeeds
      rw [Ethmux.callHandler, recorded_of_ne hne]
      exact ⟨congrArg Sensors.gps hfeeds, congrArg Sensors.ethmux hfeeds,
        tells_demuxed env hID hne s⟩
  · -- commands are not recorded
    have hfeeds : Feeds [.armRawIn buffer] (ethOutput env (.demuxedARM buffer timestamp)) :=
      drives_singleton (feeds_arm env _)
    have hsensors := hfeeds s
    rw [armSide_after] at hsensors
    exact ⟨congrArg Sensors.gps hsensors, congrArg Sensors.ethmux hsensors,
      tells_singleton (tells_arm env _) s⟩
  · have hfeeds : Feeds [] (ethOutput env (.demuxedRC buffer timestamp)) :=
      drives_singleton (feeds_rc env _)
    have hsensors := hfeeds s
    have htells : (rcRawTestrc env buffer).Tells networkRecord [] :=
      tells_nil_of_calls (calls_rcRawTestrc env (silent_admits env) buffer)
    exact ⟨congrArg Sensors.gps hsensors, congrArg Sensors.ethmux hsensors,
      tells_singleton htells s⟩

/-- All calls of `demux` for a datagram, by induction over them. -/
lemma record_ethOutputs {p : Packet} {t : Ethmux.State} {outs : List Ethmux.Output}
    (houts : outs ⊆ (Ethmux.demux env.starttime p t).2) (s : State K) :
    (inOrder (outs.map (ethOutput env)) s).1.gps = framer.after s.gps outs ∧
      (inOrder (outs.map (ethOutput env)) s).1.ethmux = s.ethmux ∧
      (inOrder (outs.map (ethOutput env)) s).2.filterMap networkRecord =
        framer.emits s.gps outs := by
  induction outs generalizing s with
  | nil => exact ⟨rfl, rfl, rfl⟩
  | cons o outs ih =>
    obtain ⟨hgps, heth, hrecords⟩ := record_ethOutput env (houts List.mem_cons_self) s
    obtain ⟨hgps', heth', hrecords'⟩ :=
      ih (fun o' ho' => houts (List.mem_cons_of_mem o ho')) (ethOutput env o s).1
    rw [List.map_cons, inOrder_cons]
    refine ⟨?_, heth'.trans heth, ?_⟩
    · rw [hgps', hgps]
      rfl
    · rw [List.filterMap_append, hrecords, hrecords', hgps]
      rfl

/-- The datagram of an event. -/
def datagramOf : Event K → Option Packet
  | .datagram p => some p
  | _ => none

/-- **The recorder.** Through the state between the network and the log, and without the records
of the process itself, `Main` is the recorder of its datagrams. -/
theorem main_recorder : (machine env).Projects (recorder env.starttime)
    (fun s => (s.ethmux, s.gps)) (fun _ e => (datagramOf e).toList) networkRecord := by
  -- for the events that are no datagrams
  have hown : ∀ (s : State K) (a : Action K), Feeds [] a → a.Calls (networkRecord · = none) →
      ((a s).1.ethmux, (a s).1.gps) = (s.ethmux, s.gps) ∧
        (a s).2.filterMap networkRecord = [] := by
    intro s a hfeeds hcalls
    have hsensors := hfeeds s
    rw [armSide_after] at hsensors
    exact ⟨Prod.ext (congrArg Sensors.ethmux hsensors) (congrArg Sensors.gps hsensors),
      tells_nil_of_calls hcalls s⟩
  have hstep : ∀ (s : State K) (e : Event K),
      ((step env s e).1.ethmux, (step env s e).1.gps) =
          (recorder env.starttime).after (s.ethmux, s.gps) (datagramOf e).toList ∧
        (step env s e).2.filterMap networkRecord =
          (recorder env.starttime).emits (s.ethmux, s.gps) (datagramOf e).toList := by
    intro s e
    have hadmits := silent_admits env
    cases e with
    | datagram p =>
      obtain ⟨hgps, heth, hrecords⟩ := record_ethOutputs env
        (List.Subset.refl (Ethmux.demux env.starttime p s.ethmux).2)
        { s with ethmux := (Ethmux.demux env.starttime p s.ethmux).1 }
      exact ⟨Prod.ext heth hgps, hrecords.trans (List.append_nil _).symm⟩
    | logTimeout =>
      exact hown s _ (feeds_getPsasTime env fun _ => drives_call _)
        (calls_log env fun _ => rfl)
    | versionCallback reply =>
      apply hown s _ (drives_singleton (feeds_logReceiveRnhVersion env _))
      apply calls_singleton
      apply calls_getPsasTime
      intro n'
      exact calls_log env fun n => networkRecord_of_own (Or.inr (Or.inl rfl)) _
    | armSignal armed =>
      apply hown s _ (feeds_armSendSignal env (if armed then "ARM" else "SAFE"))
      apply calls_armSendSignal env hadmits
      cases armed with
      | true => exact Or.inl rfl
      | false => exact Or.inr rfl
    | setCanardAngle degrees =>
      apply hown s _ _ (calls_setCanardAngle env hadmits degrees)
      apply feeds_getPsasTime
      intro clock s'
      exact feeds_rcOutputs env (RollControl.setCanardAngle clock degrees s'.rc) s'
  exact ⟨rfl, fun s e => (hstep s e).1, fun s e => (hstep s e).2⟩

/-! ## The filter -/

/-- The IDs `filter.c` keeps from the ground. -/
def DiskOnly (ID : MessageID) : Prop :=
  (ID.toList.take 2 = ascii "V8" ∨ ID = messageID 'J' 'G' 'P' 'S') ∧
    ID ≠ messageID 'V' '8' 'A' '8'

instance (ID : MessageID) : Decidable (DiskOnly ID) := inferInstanceAs (Decidable (_ ∧ _))

theorem filterReceive_eq (m : Message) :
    Filter.filterReceive m = if DiskOnly m.ID then .filterToDisk else .filterToGround := by
  unfold Filter.filterReceive
  by_cases hgps : m.ID.toList.take 2 = ascii "V8" ∨ m.ID = messageID 'J' 'G' 'P' 'S'
  · -- V8A8 holds the position, and goes to the ground all the same
    by_cases hnav : m.ID = messageID 'V' '8' 'A' '8'
    · have hdisk : ¬DiskOnly m.ID := fun h => h.2 hnav
      rw [if_pos hgps, if_pos hnav, if_neg hdisk]
    · have hdisk : DiskOnly m.ID := ⟨hgps, hnav⟩
      rw [if_pos hgps, if_neg hnav, if_pos hdisk]
  · have hdisk : ¬DiskOnly m.ID := fun h => hgps h.1
    rw [if_neg hgps, if_neg hdisk]

/-- A call that logs by the filter, and no record that looks like one of the logger's own. -/
def Filtered : Output K → Prop
  | .log (.logWrite _ m) => ¬DiskOnly m.ID ∧ m.ID ≠ messageID 'S' 'E' 'Q' 'N'
  | .log (.logWriteDiskOnly _ m) => DiskOnly m.ID ∧ m.ID ≠ messageID 'S' 'E' 'Q' 'N'
  | _ => True

/-- The records of the process itself are for the ground. -/
lemma filtered_of_ownID {ID : MessageID} (h : OwnID ID) :
    ¬DiskOnly ID ∧ ID ≠ messageID 'S' 'E' 'Q' 'N' := by
  rcases h with rfl | rfl | rfl <;> decide

omit [Field K] [LinearOrder K] in
lemma filtered_admits : Admits env Filtered where
  rsReceiveAdj := fun _ => trivial
  respond := fun _ => trivial
  signal := fun _ _ _ _ => filtered_of_ownID (Or.inl rfl)
  roll := fun _ _ _ hout => filtered_of_ownID (Or.inr (Or.inr hout.ID))

omit [Field K] [LinearOrder K] in
lemma filtered_logWrite {m : Message} (h : ¬DiskOnly m.ID)
    (hseqn : m.ID ≠ messageID 'S' 'E' 'Q' 'N') : (logWrite env m).Calls Filtered :=
  calls_log env fun _ => ⟨h, hseqn⟩

omit [Field K] [LinearOrder K] in
lemma filtered_filterReceive {m : Message} (hseqn : m.ID ≠ messageID 'S' 'E' 'Q' 'N') :
    (filterReceive env m).Calls Filtered := by
  unfold filterReceive
  rw [filterReceive_eq]
  by_cases hdisk : DiskOnly m.ID
  · rw [if_pos hdisk]
    exact calls_singleton (calls_log env fun _ => ⟨hdisk, hseqn⟩)
  · rw [if_neg hdisk]
    exact calls_singleton (filtered_logWrite env hdisk hseqn)

/-- Of the sources only the two GPS streams are filtered. -/
lemma filtered_demuxed {type : Source} (hne : type ≠ .GPSCOTS) {m : Message}
    (hID : m.ID = (Ethmux.demuxType type).ID) :
    (demuxed env m (Ethmux.demuxType type).handler).Calls Filtered := by
  have hseqn : m.ID ≠ messageID 'S' 'E' 'Q' 'N' := by
    rw [hID]
    cases type <;> decide
  by_cases hjgps : type = .JGPS
  · subst hjgps
    exact calls_singleton (filtered_filterReceive env hseqn)
  · have hdisk : ¬DiskOnly m.ID := by
      rw [hID]
      revert hne hjgps
      cases type <;> decide
    have hlog := filtered_logWrite env hdisk hseqn
    have hadmits := filtered_admits env
    cases type with
    | ADIS =>
      exact calls_cons hlog (calls_cons (calls_arm env hadmits _)
        (calls_singleton (calls_stateReceiveImu env hadmits m)))
    | RNHUMBDET => exact calls_cons (calls_rcRawUmb env hadmits m) (calls_singleton hlog)
    | JGPS => exact absurd rfl hjgps
    | GPSCOTS => exact absurd rfl hne
    | MPU | MPL | BMP | RNH | RNHPORT | RNHALARM | FCFH => exact calls_singleton hlog

lemma venusID_ne_seqn (b : UInt8) : Gps.venusID b ≠ messageID 'S' 'E' 'Q' 'N' := by
  intro h
  have hfirst : (Gps.venusID b).get 0 = 'V'.toUInt8 := rfl
  rw [h] at hfirst
  revert hfirst
  decide

/-- **One step.** Every record goes where the filter says. -/
theorem filtered_step (s : State K) (e : Event K) : ∀ o ∈ (step env s e).2, Filtered o := by
  have hadmits := filtered_admits env
  cases e with
  | datagram p =>
    have hdemux : (demux env p).Calls Filtered := by
      intro s'
      apply calls_inOrder
      intro o ho
      rcases Ethmux.mem_step env.starttime ho with
        ⟨expected, received, rfl⟩ | ⟨type, -, -, rfl⟩ | ⟨buffer, timestamp, rfl⟩ |
          ⟨buffer, timestamp, rfl⟩
      · have hdisk : ¬DiskOnly (messageID 'S' 'E' 'Q' 'E') := by decide
        have hseqn : messageID 'S' 'E' 'Q' 'E' ≠ messageID 'S' 'E' 'Q' 'N' := by decide
        exact calls_singleton (calls_log env fun _ => ⟨hdisk, hseqn⟩)
      · by_cases hcots : type = .GPSCOTS
        · subst hcots
          apply calls_singleton
          intro s''
          apply calls_inOrder
          intro o' ho'
          obtain ⟨f, -, rfl⟩ := List.mem_map.mp ho'
          exact calls_cons (calls_arm env hadmits _)
            (calls_singleton (filtered_filterReceive env (venusID_ne_seqn _)))
        · exact filtered_demuxed env hcots rfl
      · exact calls_singleton (calls_arm env hadmits _)
      · exact calls_singleton (calls_rcRawTestrc env hadmits buffer)
    exact hdemux s
  | logTimeout =>
    have hflush : (logTimeout env).Calls Filtered := calls_log env fun _ => trivial
    exact hflush s
  | versionCallback reply =>
    have hversion : (versionCallback env reply).Calls Filtered := by
      apply calls_singleton
      apply calls_getPsasTime
      intro n'
      exact calls_log env fun _ => filtered_of_ownID (Or.inr (Or.inl rfl))
    exact hversion s
  | armSignal armed =>
    apply calls_armSendSignal env hadmits
    cases armed with
    | true => exact Or.inl rfl
    | false => exact Or.inr rfl
  | setCanardAngle degrees => exact calls_setCanardAngle env hadmits degrees s

theorem filtered_run (es : List (Event K)) : ∀ o ∈ (machine env).outputs es, Filtered o := by
  rw [Machine.forall_mem_outputs_iff]
  intro pre e post _
  exact filtered_step env _ e

end Main

/-! ## The log file of the process -/

namespace Program

open Main (OwnID DiskOnly networkRecord loggedMessage)

variable {K : Type} [Field K] [LinearOrder K] [FloorSemiring K] (env : Main.Env K)

/-- The IDs of the records that the process makes itself. -/
def ProcessID (ID : MessageID) : Prop := OwnID ID ∨ ID = messageID 'S' 'E' 'Q' 'N'

instance (ID : MessageID) : Decidable (ProcessID ID) := inferInstanceAs (Decidable (_ ∨ _))

omit [Field K] [LinearOrder K] [FloorSemiring K] in
lemma datagrams_toMain (es : List Event) :
    (es.map (Event.toMain : Event → Main.Event K)).filterMap Main.datagramOf = packets es := by
  unfold packets
  rw [List.filterMap_map]
  apply List.filterMap_congr
  intro e _
  cases e <;> rfl

omit [FloorSemiring K] in
/-- What can be read off the records, is read off the calls that log them. -/
lemma entries_filterMap {α : Type} (read : Record → Option α) (es : List Event) :
    ((entries env es).map Entry.record).filterMap read =
      (mainOutputs env es).filterMap fun o => (loggedMessage o).bind fun m => read (recordOf m) := by
  unfold entries
  induction mainOutputs env es with
  | nil => rfl
  | cons o out ih =>
    have hcalls : Main.logCalls (o :: out) = Main.logCalls [o] ++ Main.logCalls out :=
      List.filterMap_append (l := [o])
    rw [hcalls, Logger.logged, List.flatMap_append, List.map_append, List.filterMap_append,
      ← List.singleton_append (l := out), List.filterMap_append, ← ih]
    congr 1
    cases o with
    | log call => cases call <;> rfl
    | rsReceiveAdj adj => rfl
    | respond message => rfl

omit [FloorSemiring K] in
/-- The records of the network are those of the recorder. -/
theorem networkRecords_entries (es : List Event) :
    ((entries env es).map Entry.record).filter (fun r => ¬OwnID r.ID) =
      (recorder env.starttime).outputs (packets es) := by
  have hmain := ((Main.main_recorder env).runs (es.map Event.toMain)).2
  rw [Machine.observed_const, datagrams_toMain] at hmain
  rw [← hmain, ← List.filterMap_eq_filter, entries_filterMap]
  apply List.filterMap_congr
  intro o _
  unfold networkRecord
  cases loggedMessage o with
  | none => rfl
  | some m =>
    by_cases hID : OwnID m.ID
    · simp [Option.guard, Option.filter, recordOf, hID]
    · simp [Option.guard, Option.filter, recordOf, hID]

omit [FloorSemiring K] in
/-- Every entry goes where the filter says, and looks like none of the logger's own. -/
theorem entries_filtered {es : List Event} {e : Entry} (he : e ∈ entries env es) :
    (e.toNet = true ↔ ¬DiskOnly e.record.ID) ∧
      e.record.ID ≠ messageID 'S' 'E' 'Q' 'N' := by
  obtain ⟨call, hcall, hentry⟩ := List.mem_flatMap.mp he
  have hfiltered := Main.filtered_run env _ _ (Main.mem_logCalls.mp hcall)
  cases call with
  | logWrite clock m =>
    rw [List.mem_singleton.mp hentry]
    exact ⟨iff_of_true rfl hfiltered.1, hfiltered.2⟩
  | logWriteDiskOnly clock m =>
    rw [List.mem_singleton.mp hentry]
    exact ⟨iff_of_false (by simp) (not_not.mpr hfiltered.1), hfiltered.2⟩
  | logTimeout clock => cases hentry
  | loggerFinal clock => cases hentry

/-- **The files of a process that has ended.** -/
theorem exists_files {es : List Event} (h : NoEmptyPackets env es) :
    ∃ j : Logger.Journal, j.closed.flatMap Logger.Segment.entries = entries env es ∧
      recordCodec.decodeAll (logFile (session env es)) = some j.fileRecords ∧
      telemetry (session env es) = j.closed.zipIdx.map fun (seg, n) =>
        beBytes 4 (n % 2 ^ 32) ++ recordCodec.encodeAll (Logger.netRecords seg.entries) := by
  obtain ⟨j, s, hj, hentries, hpending⟩ := exists_journal_session env h
  rw [Logger.Journal.entries, hpending, List.append_nil] at hentries
  refine ⟨j, hentries, ?_, ?_⟩
  · rw [logFile_eq, Logger.diskBytes_of_represents hj, Codec.decodeAll_encodeAll]
  · rw [telemetry_eq, Logger.writesTo, hj.writes]
    -- the numbers start anywhere, for the induction over the segments
    generalize 0 = k
    induction j.closed generalizing k with
    | nil => rfl
    | cons seg closed ih =>
      rw [List.zipIdx_cons, List.flatMap_cons, List.filterMap_append, ih, List.map_cons]
      rfl

omit [FloorSemiring K] in
/-- What is read off the file is read off what was logged. -/
lemma fileRecords_filterMap {α : Type} {es : List Event} {j : Logger.Journal}
    (hj : j.closed.flatMap Logger.Segment.entries = entries env es) {read : Record → Option α}
    (hread : ∀ stamp n, read (Logger.seqnRecord stamp n) = none) :
    j.fileRecords.filterMap read = ((entries env es).map Entry.record).filterMap read := by
  rw [Logger.fileRecords_filterMap hread, ← hj, List.map_flatMap]
  rfl

omit [FloorSemiring K] in
/-- What the file holds that is not the logger's own. -/
lemma fileRecords_filter {es : List Event} {j : Logger.Journal}
    (hj : j.closed.flatMap Logger.Segment.entries = entries env es) {p : Record → Bool}
    (hp : ∀ stamp n, p (Logger.seqnRecord stamp n) = false) :
    j.fileRecords.filter p = ((entries env es).map Entry.record).filter p := by
  rw [← List.filterMap_eq_filter]
  exact fileRecords_filterMap env hj fun stamp n => by simp [Option.guard, hp]

omit [FloorSemiring K] in
/-- What the file holds of the network is what the recorder puts out. -/
lemma networkRecords_file {es : List Event} {j : Logger.Journal}
    (hj : j.closed.flatMap Logger.Segment.entries = entries env es) :
    j.fileRecords.filter (fun r => ¬ProcessID r.ID) =
      (recorder env.starttime).outputs (packets es) := by
  rw [fileRecords_filter env hj fun stamp n => by simp [ProcessID, Logger.seqnRecord],
    ← networkRecords_entries env]
  apply List.filter_congr
  intro r hr
  obtain ⟨e, he, rfl⟩ := List.mem_map.mp hr
  simp [ProcessID, (entries_filtered env he).2]

/-- **The flight recorder.** After every regular run, the log file reads as records with nothing
left over. Those that the process has not made itself are what the datagrams amount to, in the
order of their arrival: each message that is handed over, each report of a loss, and each frame of
the GPS stream. -/
theorem flight_recorder {ok : ℕ → Bool} (es : List Event) (h : Regular env ok es) :
    ∃ records, recordCodec.decodeAll (logFile (sent ok (session env es))) = some records ∧
      records.filter (fun r => ¬ProcessID r.ID) =
        (recorder env.starttime).outputs (packets es) := by
  rw [sent_of_ok h.writes]
  obtain ⟨j, hentries, hfile, -⟩ := exists_files env h.packets
  exact ⟨j.fileRecords, hfile, networkRecords_file env hentries⟩

/-- Two datagrams with a gap in front of each, and a flush between them. -/
def gapRun : List Event :=
  [.datagram (Ethmux.datagram Ethmux.JGPS_PORT [0, 0, 0, 2, 7]), .logTimeout,
    .datagram (Ethmux.datagram Ethmux.JGPS_PORT [0, 0, 0, 4, 9])]

/-- Every write takes all it is given. -/
def noFailures : ℕ → Bool := fun _ => true

lemma regular_gapRun : Regular Main.stillEnv noFailures gapRun :=
  regular_of_no_chunk _ (by decide) fun _ => rfl

/-- Armed without a check, one IMU sample, and safe again. -/
def armedRun : List Event :=
  [.datagram (Ethmux.datagram Ethmux.ARM_PORT (ascii "DI_SLOCK")),
    .datagram (Ethmux.datagram Ethmux.ARM_PORT (ascii "#YOLO")),
    .datagram (Ethmux.datagram Ethmux.ADIS_PORT (List.replicate 28 0)),
    .datagram (Ethmux.datagram Ethmux.ARM_PORT (ascii "#SAFE"))]

lemma regular_armedRun : Regular Main.stillEnv noFailures armedRun :=
  regular_of_no_chunk _ (by decide) fun _ => rfl

/-- Each datagram is recorded behind the report on its gap. -/
theorem flight_recorder_gap :
    ∃ records, recordCodec.decodeAll (logFile (sent noFailures
        (session Main.stillEnv gapRun))) = some records ∧
      (records.filter fun r => ¬ProcessID r.ID).map Record.ID =
        [messageID 'S' 'E' 'Q' 'E', messageID 'J' 'G' 'P' 'S', messageID 'S' 'E' 'Q' 'E',
          messageID 'J' 'G' 'P' 'S'] := by
  obtain ⟨records, hfile, hrecords⟩ := flight_recorder Main.stillEnv gapRun regular_gapRun
  refine ⟨records, hfile, ?_⟩
  rw [hrecords]
  decide +kernel

/-- **The ground sees what the file holds, without what is for the disk.** After every regular
run, the telemetry is a sequence of datagrams of at most 1432 bytes with the numbers 0, 1, 2 and so
on, each with whole records behind its number. All together these are the records of the log file
without the SEQN records and those of the GPS that `filter.c` keeps back. -/
theorem telemetry_filters_log {ok : ℕ → Bool} (es : List Event) (h : Regular env ok es) :
    ∃ (records : List Record) (parts : List (List Record)),
      recordCodec.decodeAll (logFile (sent ok (session env es))) = some records ∧
      telemetry (sent ok (session env es)) = parts.zipIdx.map (fun (part, n) =>
        beBytes 4 (n % 2 ^ 32) ++ recordCodec.encodeAll part) ∧
      (∀ part ∈ parts, 4 + (recordCodec.encodeAll part).length ≤ 1432) ∧
      parts.flatten =
        records.filter fun r => ¬DiskOnly r.ID ∧ r.ID ≠ messageID 'S' 'E' 'Q' 'N' := by
  rw [sent_of_ok h.writes]
  obtain ⟨j, hentries, hfile, htelemetry⟩ := exists_files env h.packets
  refine ⟨j.fileRecords, j.closed.map fun seg => Logger.netRecords seg.entries, hfile, ?_, ?_, ?_⟩
  · rw [htelemetry, List.zipIdx_map, List.map_map]
    rfl
  · intro part hpart
    obtain ⟨seg, -, rfl⟩ := List.mem_map.mp hpart
    have hle := seg.net_le
    have hlimit : Logger.P_LIMIT = 1428 := by decide
    rw [hlimit] at hle
    omega
  · rw [fileRecords_filter env hentries fun stamp n => by simp [Logger.seqnRecord],
      ← List.flatMap_def, List.filter_map, ← hentries, List.filter_flatMap, List.map_flatMap]
    -- segment by segment: what was meant for the ground is what the filter lets through
    apply List.flatMap_congr
    intro seg hseg
    unfold Logger.netRecords
    congr 1
    apply List.filter_congr
    intro e he
    have hmem : e ∈ entries env es := hentries ▸ List.mem_flatMap_of_mem hseg he
    obtain ⟨hnet, hseqn⟩ := entries_filtered env hmem
    by_cases hdisk : DiskOnly e.record.ID
    · have hfalse : e.toNet = false := by simpa [hdisk] using hnet
      simp [hfalse, hdisk]
    · simp [hnet.mpr hdisk, hdisk, hseqn]

/-- The JGPS records of that run are for the disk: the ground sees the two reports alone, in a
datagram for each flush. -/
theorem telemetry_filters_log_gap :
    ∃ parts : List (List Record),
      telemetry (sent noFailures (session Main.stillEnv gapRun)) =
        parts.zipIdx.map (fun (part, n) =>
          beBytes 4 (n % 2 ^ 32) ++ recordCodec.encodeAll part) ∧
      parts.length = 2 ∧
      parts.flatten.map Record.ID = [messageID 'S' 'E' 'Q' 'E', messageID 'S' 'E' 'Q' 'E'] := by
  obtain ⟨records, parts, hfile, htelemetry, -, hparts⟩ :=
    telemetry_filters_log Main.stillEnv gapRun regular_gapRun
  have hrecords : (recordCodec.decodeAll (logFile (sent noFailures
      (session Main.stillEnv gapRun)))).map (fun records => (records.filter fun r =>
        ¬DiskOnly r.ID ∧ r.ID ≠ messageID 'S' 'E' 'Q' 'N').map Record.ID) =
      some [messageID 'S' 'E' 'Q' 'E', messageID 'S' 'E' 'Q' 'E'] := by
    decide +kernel
  have hlength : (telemetry (sent noFailures (session Main.stillEnv gapRun))).length = 2 := by
    decide +kernel
  rw [htelemetry, List.length_map, List.length_zipIdx] at hlength
  rw [hfile, Option.map_some, ← hparts] at hrecords
  exact ⟨parts, htelemetry, hlength, Option.some.inj hrecords⟩

end Program
end FlightComputer
