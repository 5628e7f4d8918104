import FlightComputer.RecorderTheorems

/-!
# Reading the log file

What can be learned from the log file alone. The records under the ID of a source are its
messages, and the SEQE records tell how many of them were lost on the way
(`file_accounts_for_losses`).

A file that breaks off anywhere still reads as the beginning of the flight, and lacks nothing
that was logged before the last timer whose flush is in it (`torn_log_file`).
-/

namespace FlightComputer

open Ethmux (Packet Source WellFormed deliveries delivery numbers)
open Logger (Record Entry recordOf recordCodec encodeRecord)

/-! ## The calls of `demux` -/

/-- What `demux` calls: a report, a source's handler, or a receiver of commands. -/
def DemuxCall (o : Ethmux.Output) : Prop :=
  (∃ port timestamp expected received,
      o = Ethmux.formatSequencedError port timestamp expected received) ∨
    (∃ type timestamp buffer, o = Ethmux.callHandler type timestamp buffer) ∨
    (∃ buffer timestamp, o = .demuxedARM buffer timestamp) ∨
    ∃ buffer timestamp, o = .demuxedRC buffer timestamp

theorem demuxCall_of_mem (starttime : Timespec) (ps : List Packet) :
    ∀ o ∈ (Ethmux.machine starttime).outputs ps, DemuxCall o := by
  rw [Machine.forall_mem_outputs_iff]
  intro pre p post _ o ho
  rcases Ethmux.mem_step starttime ho with
    ⟨expected, received, rfl⟩ | ⟨type, -, -, rfl⟩ | h | h
  · exact Or.inl ⟨_, _, _, _, rfl⟩
  · exact Or.inr (Or.inl ⟨_, _, _, rfl⟩)
  · exact Or.inr (Or.inr (Or.inl h))
  · exact Or.inr (Or.inr (Or.inr h))

/-- The ID of a GPS frame is no source's, and not that of a report. -/
theorem venusID_ne {ID : MessageID} (b : UInt8) (h : ID.get 0 ≠ 'V'.toUInt8) :
    Gps.venusID b ≠ ID := by
  rintro rfl
  exact h rfl

theorem source_first_ne {src : Source} (h : src ≠ .GPSCOTS) :
    (Ethmux.demuxType src).ID.get 0 ≠ 'V'.toUInt8 := by
  revert h
  cases src <;> decide

theorem source_ne_seqe (src : Source) :
    (Ethmux.demuxType src).ID ≠ messageID 'S' 'E' 'Q' 'E' := by
  cases src <;> decide

/-- The frames of a chunk all have IDs of their own. -/
lemma filter_frames {ID : MessageID} (h : ID.get 0 ≠ 'V'.toUInt8) (m : Message) (s : Gps.State) :
    ((Gps.cotsRawIn m s).2.map fun o => recordOf o.message).filter (fun r => r.ID = ID) = [] := by
  rw [List.filter_eq_nil_iff]
  intro r hr
  obtain ⟨o, -, rfl⟩ := List.mem_map.mp hr
  have hne : (recordOf o.message).ID ≠ ID := venusID_ne ((o.frame.mem.drop 4).headD 0) h
  simpa using hne

/-! ## The records of a source -/

variable {src : Source}

lemma recorded_source (hne : src ≠ .GPSCOTS) (s : Gps.State) {o : Ethmux.Output}
    (ho : DemuxCall o) :
    (recorded s o).2.filter (fun r => r.ID = (Ethmux.demuxType src).ID) =
      (deliveries src [o]).map recordOf := by
  rcases ho with ⟨port, timestamp, expected, received, rfl⟩ | ⟨type, timestamp, buffer, rfl⟩ |
    ⟨buffer, timestamp, rfl⟩ | ⟨buffer, timestamp, rfl⟩
  · -- a report has an ID of its own
    rw [Ethmux.deliveries_formatSequencedError, List.map_nil, List.filter_eq_nil_iff]
    intro r hr
    have hID : r.ID = messageID 'S' 'E' 'Q' 'E' := by rw [List.mem_singleton.mp hr]; rfl
    simpa [hID] using (source_ne_seqe src).symm
  · rw [Ethmux.deliveries_callHandler]
    by_cases hcots : type = .GPSCOTS
    · subst hcots
      rw [if_neg hne.symm]
      -- and so have the frames in a chunk
      exact filter_frames (source_first_ne hne) _ s
    · rw [Ethmux.callHandler, recorded_of_ne (Ethmux.handler_ne_demuxedCOTS hcots)]
      by_cases htype : type = src
      · subst htype
        rw [if_pos rfl]
        exact List.filter_cons_of_pos (by simp [recordOf])
      · have hID : (Ethmux.demuxType type).ID ≠ (Ethmux.demuxType src).ID := fun h =>
          htype (Ethmux.demuxType_ID_injective h)
        rw [if_neg htype]
        exact List.filter_cons_of_neg (by simp [recordOf, hID])
  · rfl
  · rfl

/-- The reports on a source's port, read off SEQE records. -/
def reportsIn (src : Source) (records : List Record) : List Ethmux.Report :=
  ((records.filter fun r => r.ID = messageID 'S' 'E' 'Q' 'E').map
    fun r => Ethmux.Report.ofBytes r.data).filter
      fun report => Ethmux.route report.port = .sequenced src

/-- The losses they add up to. -/
def lossIn (src : Source) (records : List Record) : ℤ :=
  ((reportsIn src records).map fun report => (report.received : ℤ) - report.expected).sum

lemma reportsIn_append (records records' : List Record) :
    reportsIn src (records ++ records') = reportsIn src records ++ reportsIn src records' := by
  simp only [reportsIn, List.filter_append, List.map_append]

lemma reportsIn_recorded (s : Gps.State) {o : Ethmux.Output} (ho : DemuxCall o) :
    reportsIn src (recorded s o).2 = Ethmux.reports src [o] := by
  rcases ho with ⟨port, timestamp, expected, received, rfl⟩ | ⟨type, timestamp, buffer, rfl⟩ |
    ⟨buffer, timestamp, rfl⟩ | ⟨buffer, timestamp, rfl⟩
  · have hall : ∀ m : Message, m.ID = messageID 'S' 'E' 'Q' 'E' →
        reportsIn src [recordOf m] = Ethmux.reports src [.sequencedError m] := by
      intro m hm
      have hreport : Ethmux.Report.ofBytes (recordOf m).data = Ethmux.Report.ofBytes m.payload := rfl
      unfold reportsIn Ethmux.reports
      rw [List.filter_cons_of_pos (by simp [recordOf, hm]), List.filter_nil, List.map_singleton,
        hreport]
      by_cases hroute : Ethmux.route (Ethmux.Report.ofBytes m.payload).port = .sequenced src
      · simp [hroute]
      · simp [hroute]
    exact hall _ rfl
  · rw [Ethmux.reports_callHandler]
    unfold reportsIn
    have hnone : (recorded s (Ethmux.callHandler type timestamp buffer)).2.filter
        (fun r => r.ID = messageID 'S' 'E' 'Q' 'E') = [] := by
      by_cases hcots : type = .GPSCOTS
      · subst hcots
        exact filter_frames (by decide) _ s
      · rw [Ethmux.callHandler, recorded_of_ne (Ethmux.handler_ne_demuxedCOTS hcots)]
        exact List.filter_cons_of_neg (by simp [recordOf, source_ne_seqe])
    rw [hnone]
    rfl
  · rfl
  · rfl

/-- What is read off the records of every call, is read off the records of a run. -/
lemma framer_emits {α : Type} (read : List Record → List α)
    (expected : List Ethmux.Output → List α)
    (hread : ∀ rs rs', read (rs ++ rs') = read rs ++ read rs')
    (hexpected : ∀ outs outs', expected (outs ++ outs') = expected outs ++ expected outs')
    (hnil : read [] = expected [])
    (hone : ∀ s o, DemuxCall o → read (recorded s o).2 = expected [o])
    {outs : List Ethmux.Output} (houts : ∀ o ∈ outs, DemuxCall o) (s : Gps.State) :
    read (framer.emits s outs) = expected outs := by
  induction outs generalizing s with
  | nil => exact hnil
  | cons o outs ih =>
    have hrest := ih (fun o' ho' => houts o' (List.mem_cons_of_mem o ho')) (recorded s o).1
    have hfirst := hone s o (houts o List.mem_cons_self)
    rw [Machine.emits_cons, hread, ← List.singleton_append, hexpected, ← hfirst, ← hrest]
    rfl

theorem recorder_source (hne : src ≠ .GPSCOTS) (starttime : Timespec) (ps : List Packet) :
    ((recorder starttime).outputs ps).filter (fun r => r.ID = (Ethmux.demuxType src).ID) =
      (deliveries src ((Ethmux.machine starttime).outputs ps)).map recordOf := by
  rw [recorder, Machine.outputs_cascade]
  exact framer_emits (List.filter fun r => r.ID = (Ethmux.demuxType src).ID)
    (fun outs => (deliveries src outs).map recordOf) (fun _ _ => List.filter_append ..)
    (fun outs outs' => by rw [Ethmux.deliveries_append, List.map_append]) rfl
    (fun s _ ho => recorded_source hne s ho) (demuxCall_of_mem starttime ps) _

theorem recorder_reports (starttime : Timespec) (ps : List Packet) :
    reportsIn src ((recorder starttime).outputs ps) =
      Ethmux.reports src ((Ethmux.machine starttime).outputs ps) := by
  rw [recorder, Machine.outputs_cascade]
  exact framer_emits (reportsIn src) (Ethmux.reports src) reportsIn_append
    (Ethmux.reports_append src) rfl
    (fun s _ ho => reportsIn_recorded s ho) (demuxCall_of_mem starttime ps) _

namespace Program

variable {K : Type} [Field K] [LinearOrder K] [FloorSemiring K] (env : Main.Env K)

/-- A filter that lets none of the process's own records through. -/
lemma filter_of_not_processID {p : Record → Bool} (hp : ∀ r, p r = true → ¬ProcessID r.ID)
    (records : List Record) :
    records.filter p = (records.filter fun r => ¬ProcessID r.ID).filter p := by
  rw [List.filter_filter]
  apply List.filter_congr
  intro r _
  by_cases h : p r = true
  · simp [h, hp r h]
  · simp [h]

lemma filter_ID {ID : MessageID} (h : ¬ProcessID ID) (records : List Record) :
    records.filter (fun r => r.ID = ID) =
      (records.filter fun r => ¬ProcessID r.ID).filter fun r => r.ID = ID := by
  apply filter_of_not_processID
  intro r hr
  rwa [of_decide_eq_true hr]

theorem not_processID_source (src : Source) : ¬ProcessID (Ethmux.demuxType src).ID := by
  cases src <;> decide

/-- **The file accounts for the losses.** As long as the numbers of a source increase in a regular
run, the records under its ID are its well-formed datagrams, each once and in order, and they and
the losses that the SEQE records of its port add up to make the last number plus one. -/
theorem file_accounts_for_losses {ok : ℕ → Bool} (es : List Event) (h : Regular env ok es)
    (hne : src ≠ .GPSCOTS) (hinc : (numbers src (packets es)).Pairwise (· < ·)) :
    ∃ records, recordCodec.decodeAll (logFile (sent ok (session env es))) = some records ∧
      records.filter (fun r => r.ID = (Ethmux.demuxType src).ID) =
        (Ethmux.wellFormed src (packets es)).map
          (fun p => recordOf (delivery env.starttime src p)) ∧
      lossIn src records +
          (records.filter fun r => r.ID = (Ethmux.demuxType src).ID).length =
        Ethmux.lastPlusOne (numbers src (packets es)) := by
  rw [sent_of_ok h.writes]
  obtain ⟨j, hentries, hfile, -⟩ := exists_files env h.packets
  have hnetwork := networkRecords_file env hentries
  -- both are read off the records of the network, and those are the recorder's
  have hsource : j.fileRecords.filter (fun r => r.ID = (Ethmux.demuxType src).ID) =
      (deliveries src ((Ethmux.machine env.starttime).outputs (packets es))).map recordOf := by
    rw [filter_ID (not_processID_source src), hnetwork, recorder_source hne]
  have hreports : reportsIn src j.fileRecords =
      Ethmux.reports src ((Ethmux.machine env.starttime).outputs (packets es)) := by
    rw [← recorder_reports, ← hnetwork, reportsIn, reportsIn, ← filter_ID (by decide)]
  refine ⟨j.fileRecords, hfile, ?_, ?_⟩
  · rw [hsource, Ethmux.deliveries_outputs env.starttime hinc, List.map_map]
    rfl
  · rw [hsource, List.length_map, lossIn, hreports]
    exact Ethmux.reportedLoss_outputs env.starttime hinc

/-- Of the numbers 0 to 4, the file holds 2 and 4 and reports three as lost. -/
theorem file_accounts_for_gap :
    ∃ records, recordCodec.decodeAll (logFile (sent noFailures
        (session Main.stillEnv gapRun))) = some records ∧
      (records.filter fun r => r.ID = messageID 'J' 'G' 'P' 'S').map Record.data = [[7], [9]] ∧
      lossIn .JGPS records = 3 := by
  obtain ⟨records, hfile, hrecords, hloss⟩ := file_accounts_for_losses Main.stillEnv gapRun
    regular_gapRun (by decide : Ethmux.Source.JGPS ≠ .GPSCOTS) (by decide)
  change records.filter (fun r => r.ID = messageID 'J' 'G' 'P' 'S') = _ at hrecords
  change lossIn .JGPS records +
    (records.filter fun r => r.ID = messageID 'J' 'G' 'P' 'S').length = 5 at hloss
  rw [hrecords] at hloss
  refine ⟨records, hfile, ?_, ?_⟩
  · rw [hrecords]
    decide +kernel
  · change lossIn .JGPS records + 2 = 5 at hloss
    omega

end Program

/-! ## A file that breaks off -/

namespace Logger

/-- What reads as a record is a record. -/
theorem recordCodec_exact : recordCodec.Exact := by
  intro bs r rest h
  change decodeRecord bs = some (r, rest) at h
  unfold decodeRecord at h
  split at h
  · next i₀ i₁ i₂ i₃ t₀ t₁ t₂ t₃ t₄ t₅ l₁ l₀ body =>
    split_ifs at h with hlen
    cases h
    have hbytes : beBytes 2 (beNat [l₁, l₀]) = [l₁, l₀] :=
      congrArg List.reverse (leBytes_leNat [l₀, l₁])
    show _ = encodeRecord _ ++ body.drop (beNat [l₁, l₀])
    unfold encodeRecord
    dsimp only
    rw [List.length_take_of_le hlen, hbytes, List.append_assoc _ (body.take _), List.take_append_drop]
    rfl
  · cases h

end Logger

namespace Program

variable {K : Type} [Field K] [LinearOrder K] [FloorSemiring K] (env : Main.Env K)

lemma logFile_prefix (es fs : List Event) :
    logFile ((machine env).outputs es) <+: logFile ((machine env).outputs (es ++ fs)) := by
  rw [Machine.outputs_append]
  unfold logFile loggerCalls
  rw [List.filterMap_append, List.filterMap_append, List.flatten_append]
  exact List.prefix_append _ _

/-- **The timer.** Whatever was logged before is in the file. -/
lemma exists_journal_timeout {es : List Event} (h : NoEmptyPackets env es) :
    ∃ (j : Logger.Journal) (s : Logger.State),
      Logger.Represents j s (loggerCalls ((machine env).outputs (es ++ [.logTimeout]))) ∧
        j.closed.flatMap Logger.Segment.entries = entries env es := by
  obtain ⟨j, hj, hentries⟩ := exists_journal env h
  have hcalls : Main.logCalls (mainOutputs env (es ++ [.logTimeout])) =
      Main.logCalls (mainOutputs env es) ++
        [.logTimeout (env.clock ((Main.machine env).run (es.map Event.toMain)).reads)] := by
    rw [mainOutputs, List.map_append, List.map_singleton, Machine.outputs_snoc, Main.logCalls,
      List.filterMap_append]
    rfl
  rw [(logger_outputs env _).2, hcalls, Machine.outputs_snoc, ← (logger_outputs env es).1,
    ← (logger_outputs env es).2]
  refine ⟨_, _, Logger.flushLog_represents hj _, ?_⟩
  have hflush := Logger.Journal.entries_flush
    (env.clock ((Main.machine env).run (es.map Event.toMain)).reads) j
  rwa [Logger.Journal.entries, Logger.Journal.pending_flush, List.append_nil, hentries] at hflush

omit [FloorSemiring K] in
/-- Nothing that `Main` logs looks like a SEQN record. -/
lemma filter_entries (es : List Event) :
    ((entries env es).map Entry.record).filter (fun r => r.ID ≠ messageID 'S' 'E' 'Q' 'N') =
      (entries env es).map Entry.record := by
  rw [List.filter_eq_self]
  intro r hr
  obtain ⟨e, he, rfl⟩ := List.mem_map.mp hr
  simpa using (entries_filtered env he).2

omit [FloorSemiring K] in
/-- The closed part of a journal, read without the SEQN records. -/
lemma closed_filter {es : List Event} {j : Logger.Journal} (hj : j.entries = entries env es) :
    j.fileRecords.filter (fun r => r.ID ≠ messageID 'S' 'E' 'Q' 'N') =
      (j.closed.flatMap Logger.Segment.entries).map Entry.record := by
  rw [Logger.fileRecords_filter fun stamp n => by simp [Logger.seqnRecord]]
  unfold Logger.allRecords
  rw [← List.map_flatMap, List.filter_eq_self]
  intro r hr
  obtain ⟨e, he, rfl⟩ := List.mem_map.mp hr
  have hmem : e ∈ entries env es := hj ▸ List.mem_append_left _ he
  simpa using (entries_filtered env hmem).2

/-- What can be read of a file that may have broken off, SEQN records apart. -/
def recovered (file : Bytes) : List Record :=
  (recordCodec.decodeMost file).1.filter fun r => r.ID ≠ messageID 'S' 'E' 'Q' 'N'

/-- **A log file that breaks off.** Whenever the process dies in a regular run, and wherever its
file then ends, what can be read of the file is a beginning of what was logged. It lacks nothing
that was logged before a timer whose flush has reached the disk. -/
theorem torn_log_file {ok : ℕ → Bool} (es : List Event) (h : Regular env ok es) (n : ℕ) :
    recovered ((logFile (sent ok ((machine env).outputs es))).take n) <+:
        (entries env es).map Entry.record ∧
      ∀ pre post, es = pre ++ .logTimeout :: post →
        (logFile (sent ok ((machine env).outputs (pre ++ [.logTimeout])))).length ≤ n →
          (entries env pre).map Entry.record <+:
            recovered ((logFile (sent ok ((machine env).outputs es))).take n) := by
  simp only [sent_of_ok h.writes]
  unfold recovered
  constructor
  · -- the file is a beginning of the encoded journal, so its records are a beginning of the journal's
    obtain ⟨j, hj, hentries⟩ := exists_journal env h.packets
    have hfile : (logFile ((machine env).outputs es)).take n <+:
        recordCodec.encodeAll j.fileRecords := by
      rw [logFile_eq, Logger.diskBytes_of_represents hj]
      exact List.take_prefix n _
    have hread := (Logger.recordCodec_exact.decodeMost_prefix hfile).1
    refine (hread.filter _).trans ?_
    rw [closed_filter env hentries, ← hentries, Logger.Journal.entries]
    exact List.IsPrefix.map _ (List.prefix_append _ _)
  · -- the file as it was behind the timer is a beginning of it, and is read whole
    rintro pre post rfl hlen
    obtain ⟨j, s, hj, hclosed⟩ := exists_journal_timeout env h.left.packets
    have hwhole : logFile ((machine env).outputs (pre ++ [.logTimeout])) <+:
        (logFile ((machine env).outputs (pre ++ .logTimeout :: post))).take n := by
      have hbegins := logFile_prefix env (pre ++ [.logTimeout]) post
      rw [List.append_assoc, List.singleton_append] at hbegins
      rw [List.prefix_take_iff]
      exact ⟨hbegins, hlen⟩
    rw [logFile_eq, Logger.diskBytes_of_represents hj] at hwhole
    have hread := (Codec.prefix_decodeMost hwhole).filter
      fun r => r.ID ≠ messageID 'S' 'E' 'Q' 'N'
    rwa [fileRecords_filter env hclosed fun stamp n => by simp [Logger.seqnRecord],
      filter_entries] at hread

/-- The file of two flushes, broken off nine bytes behind the first. -/
theorem torn_log_file_sixty :
    (recovered ((logFile (sent noFailures ((machine Main.stillEnv).outputs
        (gapRun ++ [.logTimeout])))).take 60)).map Record.ID =
        [messageID 'S' 'E' 'Q' 'E', messageID 'J' 'G' 'P' 'S'] ∧
      recovered ((logFile (sent noFailures ((machine Main.stillEnv).outputs
        (gapRun ++ [.logTimeout])))).take 60) =
          (entries Main.stillEnv (gapRun.take 1)).map Entry.record := by
  have hregular : Regular Main.stillEnv noFailures (gapRun ++ [.logTimeout]) :=
    regular_of_no_chunk _ (by decide) fun _ => rfl
  have hID : (recovered ((logFile (sent noFailures ((machine Main.stillEnv).outputs
      (gapRun ++ [.logTimeout])))).take 60)).map Record.ID =
        [messageID 'S' 'E' 'Q' 'E', messageID 'J' 'G' 'P' 'S'] := by
    decide +kernel
  -- it lacks nothing of the first flush, which has as many records
  have hflush := (torn_log_file Main.stillEnv (gapRun ++ [.logTimeout]) hregular 60).2
    (gapRun.take 1) (gapRun.drop 2 ++ [.logTimeout]) rfl (by decide +kernel)
  have hlength : ((entries Main.stillEnv (gapRun.take 1)).map Entry.record).length = 2 := by
    decide +kernel
  refine ⟨hID, (hflush.eq_of_length ?_).symm⟩
  have hrecovered := congrArg List.length hID
  rw [List.length_map] at hrecovered
  rw [hlength, hrecovered]
  rfl

end Program
end FlightComputer
