import FlightComputer.FlightLogTheorems

/-!
# The GPS stream, from the receiver to the log file

A frame of the stream is sent on unless it is covered by one that was found before it
(`frame_found_iff`), whatever else is in the stream and wherever the network cuts it. A stream
that has nothing but noise between its frames is sent on as these frames, and the log file holds
their packets (`gps_stream_recorded`).
-/

namespace FlightComputer
namespace Gps

/-! ## Frames in a stream -/

/-- The packet, with its length as the loop reads it. -/
def findOf (packet : Bytes) : Find := (.ofNat packet.length, packet)

theorem length_venusFrame (packet : Bytes) : (venusFrame packet).length = packet.length + 7 := by
  simp only [venusFrame, List.length_append, length_beBytes, List.length_cons, List.length_nil]
  omega

theorem venusMatch_venusFrame {packet : Bytes} (h : packet.length ≤ 256) (rest : Bytes) :
    VenusMatch (findOf packet) (venusFrame packet).length (venusFrame packet ++ rest) := by
  refine ⟨h, ?_, length_venusFrame packet, List.prefix_append _ _⟩
  show (UInt16.ofNat packet.length).toNat = packet.length
  rw [UInt16.toNat_ofNat']
  exact Nat.mod_eq_of_lt (by omega)

/-- The frame at the start of some bytes is read in one way only. -/
theorem VenusMatch.unique {find find' : Find} {n n' : ℕ} {xs : Bytes} (h : VenusMatch find n xs)
    (h' : VenusMatch find' n' xs) : find = find' := by
  have hlook := look_of_match h
  rw [look_of_match h'] at hlook
  cases hlook
  rfl

/-- A frame starts with an A0. -/
theorem inert_of_ne {b : UInt8} (h : b ≠ 0xA0) : venusPattern.Inert b := by
  intro xs
  constructor
  · rintro (⟨hhead, -⟩ | ⟨L, -, hbegins, -⟩)
    · exact h (Option.some.inj hhead)
    · exact h (List.cons_prefix_cons.mp hbegins).1.symm
  · rintro find n ⟨-, -, -, hbegins⟩
    exact h (List.cons_prefix_cons.mp hbegins).1.symm

/-- **Resynchronisation.** Whatever the stream is, and however it is cut into chunks of at most
249 bytes: a frame in it with enough bytes behind its start is sent on exactly if no frame that
is sent on starts before it and covers its start. -/
theorem frame_found_iff (ms : List Message) (hms : ∀ m ∈ ms, m.dataLength.toNat ≤ 249)
    (before packet after : Bytes) (hstream : stream ms = before ++ venusFrame packet ++ after)
    (hpacket : packet.length ≤ 256) (hbehind : 256 ≤ packet.length + after.length) :
    (before.length, findOf packet) ∈ positioned.outputs ms ↔
      ∀ find ∈ positioned.outputs ms, find.1 < before.length →
        find.1 + (find.2.2.length + 7) ≤ before.length := by
  have hleft := leftmost_venusLoop (stream ms)
  have hkept := length_venusLoop_le (stream ms)
  rw [← (run_eq_venusLoop hms).1] at hleft
  have hsize : ∀ {x n xs}, venusPattern.Match x n xs → n = x.2.length + 7 := fun h => h.2.2.1
  have hmatch : venusPattern.Match (findOf packet) (venusFrame packet).length
      ((stream ms).drop before.length) := by
    rw [hstream, List.append_assoc, List.drop_left]
    exact venusMatch_venusFrame hpacket after
  constructor
  · -- what is sent on does not overlap, so it ends before the next one that is sent on starts
    intro hfound find hfind hlt
    have hdisjoint := List.pairwise_iff_getElem.mp (hleft.disjoint hsize)
    obtain ⟨i, hi, rfl⟩ := List.getElem_of_mem hfind
    obtain ⟨j, hj, hget⟩ := List.getElem_of_mem hfound
    have hpos : (positioned.outputs ms)[j].1 = before.length := by rw [hget]
    rcases Nat.lt_trichotomy i j with hij | rfl | hji
    · have hle := hdisjoint i j hi hj hij
      omega
    · omega
    · have hle := hdisjoint j i hj hi hji
      omega
  · -- the frame is sent on, or covered, or still waited for
    intro hfree
    rcases hleft.found_or_covered hsize hmatch with
      ⟨y, m, hfound, hy⟩ | ⟨find, hfind, hlt, hgt⟩ | hlen
    · rw [Nat.zero_add] at hfound
      rwa [VenusMatch.unique hmatch hy]
    · rw [Nat.zero_add] at hlt hgt
      have hle := hfree find hfind hlt
      omega
    · -- the loop would be waiting on more bytes than it ever does
      have hlength := congrArg List.length hstream
      rw [List.length_append, List.length_append, length_venusFrame] at hlength
      omega

/-- A frame behind a header that promises three bytes. -/
theorem frame_found_behind_header :
    (4, findOf [8]) ∈ positioned.outputs
      [chunk ([0xA0, 0xA1, 0, 3] ++ venusFrame [8]), chunk (List.replicate 200 0),
        chunk (List.replicate 60 0)] :=
  (frame_found_iff
    [chunk ([0xA0, 0xA1, 0, 3] ++ venusFrame [8]), chunk (List.replicate 200 0),
      chunk (List.replicate 60 0)]
    (by decide +kernel) [0xA0, 0xA1, 0, 3] [8] (List.replicate 260 0) (by decide +kernel)
    (by decide) (by decide +kernel)).mpr (by decide +kernel)

/-- Packets sent one by one, each with some noise in front of its frame. -/
def venusStream (pieces : List (Bytes × Bytes)) : Bytes := spaced venusFrame pieces

/-- What the packets of a stream have to be: not longer than the loop accepts, and with no A0
between their frames. -/
def CleanPieces (pieces : List (Bytes × Bytes)) : Prop :=
  ∀ piece ∈ pieces, (∀ b ∈ piece.1, b ≠ 0xA0) ∧ piece.2.length ≤ 256

instance (pieces : List (Bytes × Bytes)) : Decidable (CleanPieces pieces) :=
  have (piece : Bytes × Bytes) : Decidable (∀ b ∈ piece.1, b ≠ 0xA0) := List.decidableBAll _ _
  List.decidableBAll _ _

theorem exists_leftmost_venusStream {pieces : List (Bytes × Bytes)} (h : CleanPieces pieces) :
    ∃ frames, venusPattern.Leftmost 0 (venusStream pieces) frames [] ∧
      frames.map (fun f => f.2.2) = pieces.map Prod.snd := by
  -- the same pieces, with the lengths the loop reads
  let finds : List (Bytes × Find) := pieces.map fun piece => (piece.1, findOf piece.2)
  have hspaced : venusStream pieces = spaced (fun find : Find => venusFrame find.2) finds := by
    rw [venusStream, spaced, spaced, List.flatMap_map]
    rfl
  have hnoise : ∀ piece ∈ finds, ∀ b ∈ piece.1, venusPattern.Inert b := by
    intro piece hpiece b hb
    obtain ⟨piece', hpiece', rfl⟩ := List.mem_map.mp hpiece
    exact inert_of_ne ((h piece' hpiece').1 b hb)
  have hwrite : ∀ piece ∈ finds, ∀ rest, venusPattern.Match piece.2
      (venusFrame piece.2.2).length (venusFrame piece.2.2 ++ rest) := by
    intro piece hpiece rest
    obtain ⟨piece', hpiece', rfl⟩ := List.mem_map.mp hpiece
    exact venusMatch_venusFrame (h piece' hpiece').2 rest
  obtain ⟨frames, hleft, hmap⟩ :
      ∃ frames, venusPattern.Leftmost 0 (spaced (fun find : Find => venusFrame find.2) finds)
        frames [] ∧ frames.map Prod.snd = finds.map Prod.snd :=
    Pattern.exists_leftmost_spaced hnoise hwrite 0
  refine ⟨frames, hspaced ▸ hleft, ?_⟩
  have hpackets := congrArg (List.map Prod.snd) hmap
  rw [List.map_map, List.map_map, List.map_map] at hpackets
  exact hpackets

/-- **A clean stream.** Cut into chunks of at most 249 bytes, it is sent on packet by packet, and
nothing of it stays in the buffer. -/
theorem packets_venusStream {ms : List Message} (hms : ∀ m ∈ ms, m.dataLength.toNat ≤ 249)
    {pieces : List (Bytes × Bytes)} (h : CleanPieces pieces)
    (hstream : stream ms = venusStream pieces) :
    (machine.outputs ms).map (fun o => o.frame.packet) = pieces.map Prod.snd ∧
      machine.run ms = [] := by
  obtain ⟨frames, hleft, hpackets⟩ := exists_leftmost_venusStream h
  rw [← hstream] at hleft
  refine ⟨(Main.packets_eq_of_leftmost hms hleft).trans hpackets, ?_⟩
  rw [(run_eq_venusLoop hms).2]
  exact (leftmost_iff_venusLoop.mp hleft).2

/-! ## What is sent on for a packet -/

/-- The ID and the data of a record for a packet. -/
def packetRecord (packet : Bytes) : MessageID × Bytes := (venusID (packet.headD 0), packet.tail)

theorem packetRecord_message {b : Bytes} {o : Output} (h : o.frame ∈ (venusLoop b).1)
    (hne : o.frame.packet ≠ []) :
    (o.message.ID, o.message.payload) = packetRecord o.frame.packet := by
  obtain ⟨id, body, hpacket⟩ := List.exists_cons_of_ne_nil hne
  obtain ⟨before, id', body', after, -, hmem, hlen, -, -, -, -, hdata, -, hrest, htake⟩ :=
    genuine_of_packet o.timestamp h hpacket
  have hdrop := drop_four_venusFrame (id' :: body') after
  rw [← hmem] at hdrop
  have hframe : o.frame.packet = id' :: body' := by
    rw [Frame.packet, hdrop, hlen, List.take_left]
  have hID : o.message.ID = venusID id' := by
    show venusID ((o.frame.mem.drop 4).headD 0) = _
    rw [hdrop]
    rfl
  have hlong : o.message.dataLength.toNat ≤ o.message.data.length := by
    change o.message.data = _ at hrest
    change (o.message.dataLength.toNat : ℤ) = _ at hdata
    rw [hrest, List.length_append, List.length_append]
    rw [List.length_cons] at hlen
    omega
  have hpayload : o.message.payload = body' := by
    rw [Message.payload, memread, Nat.sub_eq_zero_of_le hlong, List.replicate_zero, List.append_nil]
    exact htake
  rw [hframe, hID, hpayload]
  rfl

end Gps

/-! ## The frames in the log file -/

open Ethmux (Packet WellFormed deliveries delivery numbers)
open Logger (Record recordOf recordCodec)

/-- The records that come from the GPS stream. -/
def FromVenus (r : Record) : Bool := r.ID.toList.take 2 = ascii "V8"

lemma recorded_chunks (s : Gps.State) {o : Ethmux.Output} (ho : DemuxCall o) :
    (recorded s o).1 = Gps.machine.after s (deliveries .GPSCOTS [o]) ∧
      (recorded s o).2.filter FromVenus =
        (Gps.machine.emits s (deliveries .GPSCOTS [o])).map fun o' => recordOf o'.message := by
  rcases ho with ⟨port, timestamp, expected, received, rfl⟩ | ⟨type, timestamp, buffer, rfl⟩ |
    ⟨buffer, timestamp, rfl⟩ | ⟨buffer, timestamp, rfl⟩
  · exact ⟨rfl, rfl⟩
  · rw [Ethmux.deliveries_callHandler]
    by_cases hcots : type = .GPSCOTS
    · -- all frames of a chunk have an ID `V8..`
      subst hcots
      rw [if_pos rfl]
      have hall : ∀ outs : List Gps.Output, (outs.map fun o' => recordOf o'.message).filter
          FromVenus = outs.map fun o' => recordOf o'.message := by
        intro outs
        rw [List.filter_eq_self]
        intro r hr
        obtain ⟨o', -, rfl⟩ := List.mem_map.mp hr
        exact decide_eq_true rfl
      refine ⟨rfl, ?_⟩
      rw [Machine.emits_cons, Machine.emits_nil, List.append_nil]
      exact hall _
    · have hID : (Ethmux.demuxType type).ID.toList.take 2 ≠ ascii "V8" := by
        revert hcots
        cases type <;> decide
      rw [if_neg hcots, Ethmux.callHandler,
        recorded_of_ne (Ethmux.handler_ne_demuxedCOTS hcots)]
      exact ⟨rfl, List.filter_cons_of_neg (by simp [FromVenus, recordOf, hID])⟩
  · exact ⟨rfl, rfl⟩
  · exact ⟨rfl, rfl⟩

/-- The framer sees the chunks only, and the records from the GPS stream are its frames. -/
theorem framer_chunks {outs : List Ethmux.Output} (houts : ∀ o ∈ outs, DemuxCall o)
    (s : Gps.State) :
    framer.after s outs = Gps.machine.after s (deliveries .GPSCOTS outs) ∧
      (framer.emits s outs).filter FromVenus =
        (Gps.machine.emits s (deliveries .GPSCOTS outs)).map fun o => recordOf o.message := by
  induction outs generalizing s with
  | nil => exact ⟨rfl, rfl⟩
  | cons o outs ih =>
    obtain ⟨hstate, hrecords⟩ := recorded_chunks s (houts o List.mem_cons_self)
    obtain ⟨hstates, hrecords'⟩ :=
      ih (fun o' ho' => houts o' (List.mem_cons_of_mem o ho')) (recorded s o).1
    rw [← List.singleton_append, Ethmux.deliveries_append, Gps.machine.after_append,
      Gps.machine.emits_append, List.map_append, ← hstate, ← hrecords, ← hrecords']
    exact ⟨hstates, List.filter_append ..⟩

open Main (cotsMessages)

namespace Program

variable {K : Type} [Field K] [LinearOrder K] (env : Main.Env K)

/-- The GPS buffer, from the datagrams. -/
lemma gps_run (es : List Event) :
    ((Main.machine env).run (es.map Event.toMain)).gps =
        Gps.machine.run (cotsMessages env.starttime (packets es)) ∧
      ((Main.machine env).run (es.map Event.toMain)).ethmux =
        (Ethmux.machine env.starttime).run (packets es) := by
  have hmain := ((Main.main_recorder env).runs (es.map Event.toMain)).1
  rw [Machine.observed_const, datagrams_toMain, recorder, Machine.run_cascade] at hmain
  have hchunks := (framer_chunks (demuxCall_of_mem env.starttime (packets es)) []).1
  exact ⟨(congrArg Prod.snd hmain).trans hchunks, congrArg Prod.fst hmain⟩

/-- The chunk of a step. -/
lemma onChunk_iff (P : Gps.State → Message → Prop) (es : List Event) (p : Packet) :
    Main.OnChunk env (P ((front env).run es).gps) ((front env).run es) (.datagram p) ↔
      Gps.machine.Along P (Gps.machine.run (cotsMessages env.starttime (packets es)))
        (deliveries .GPSCOTS (Ethmux.calls env.starttime (packets es) p)) := by
  unfold Main.OnChunk
  dsimp only
  rw [run_front, (gps_run env es).1, (gps_run env es).2, Ethmux.nextSequence_run]
  by_cases hwell : WellFormed .GPSCOTS p
  · rw [Ethmux.deliveries_calls env.starttime _ hwell]
    by_cases hstale : p.number < Ethmux.nextNumber (numbers .GPSCOTS (packets es))
    · simp [hstale]
    · simp [hstale, hwell, not_lt.mp hstale]
  · rw [(Ethmux.account_of_not_wellFormed env.starttime _ hwell).2]
    simp [hwell]

/-- **Conditions on the chunks.** They hold along a run of the process exactly if they do along
that of the framer. -/
theorem along_onChunk_iff (P : Gps.State → Message → Prop) (es : List Event) :
    (front env).Along (fun s e => Main.OnChunk env (P s.gps) s e.toMain) (front env).init es ↔
      Gps.machine.Along P Gps.machine.init (cotsMessages env.starttime (packets es)) := by
  induction es using List.reverseRecOn with
  | nil => exact Iff.rfl
  | append_singleton es e ih =>
    rw [Machine.along_append, ih, Machine.along_cons, and_iff_left (Machine.along_nil _)]
    cases e with
    | datagram p =>
      have hpackets : packets (es ++ [.datagram p]) = packets es ++ [p] := by simp [packets]
      have hcots : cotsMessages env.starttime (packets es ++ [p]) =
          cotsMessages env.starttime (packets es) ++
            deliveries .GPSCOTS (Ethmux.calls env.starttime (packets es) p) := by
        rw [cotsMessages, Ethmux.outputs_snoc_calls, Ethmux.deliveries_append]
        rfl
      rw [hpackets, hcots, Machine.along_append]
      exact and_congr_right fun _ => onChunk_iff env P es p
    | logTimeout =>
      have hpackets : packets (es ++ [.logTimeout]) = packets es := by simp [packets]
      rw [hpackets]
      exact and_iff_left trivial
    | versionCallback reply =>
      have hpackets : packets (es ++ [.versionCallback reply]) = packets es := by simp [packets]
      rw [hpackets]
      exact and_iff_left trivial

/-- Frames without a packet, among those sent on. -/
lemma noEmptyPackets_iff_outputs (es : List Event) :
    NoEmptyPackets env es ↔
      ∀ o ∈ Gps.machine.outputs (cotsMessages env.starttime (packets es)), o.frame.packet ≠ [] := by
  rw [Machine.outputs, Machine.forall_mem_emits_iff]
  refine (along_onChunk_iff env
    (fun s m => Gps.NoEmptyFrame (Gps.beforeCopy s m ++ m.payload)) es).trans ?_
  apply Machine.along_congr
  intro s m _
  have hstep : (Gps.machine.step s m).2 =
      (Gps.venusLoop (Gps.beforeCopy s m ++ m.payload)).1.map (Gps.Output.mk m.timestamp) := rfl
  rw [Gps.noEmptyFrame_iff, hstep, List.forall_mem_map]

/-- **Regular runs** are those in which no buffer of the process is written past its end, and no
write fails. -/
theorem regular_iff {ok : ℕ → Bool} (es : List Event) :
    Regular env ok es ↔
      Gps.machine.Along Gps.InBuffer Gps.machine.init (cotsMessages env.starttime (packets es)) ∧
        Main.LogInBounds env (es.map Event.toMain) ∧ ∀ n, ok n = true := by
  have hchunks := along_onChunk_iff env (fun _ m => m.dataLength.toNat ≤ Gps.sizeofBuf) es
  have hbuffer : Gps.machine.Along Gps.InBuffer Gps.machine.init
        (cotsMessages env.starttime (packets es)) ↔
      Gps.machine.Along (fun _ m => m.dataLength.toNat ≤ Gps.sizeofBuf) Gps.machine.init
        (cotsMessages env.starttime (packets es)) :=
    Machine.along_congr fun s m _ => Gps.inBuffer_iff s m
  have hlog : Main.LogInBounds env (es.map Event.toMain) ↔ NoEmptyPackets env es :=
    (Logger.along_inBounds_iff _).trans (fits_iff_noEmptyPackets env es)
  rw [hbuffer, hlog, ← hchunks]
  exact ⟨fun h => ⟨h.chunks, h.packets, h.writes⟩, fun h => ⟨h.1, h.2.1, h.2.2⟩⟩

variable [FloorSemiring K]

omit [FloorSemiring K] in
/-- The records from the GPS stream are those of the frames. -/
lemma venusRecords_file {es : List Event} {j : Logger.Journal}
    (hj : j.closed.flatMap Logger.Segment.entries = entries env es) :
    j.fileRecords.filter FromVenus =
      (Gps.machine.outputs (cotsMessages env.starttime (packets es))).map
        fun o => recordOf o.message := by
  have hown : ∀ r : Record, FromVenus r = true → ¬ProcessID r.ID := by
    rintro r hr (hID | hID)
    · rcases hID with hID | hID | hID <;> simp [FromVenus, hID] at hr <;> revert hr <;> decide
    · simp [FromVenus, hID] at hr
      revert hr
      decide
  rw [filter_of_not_processID hown, networkRecords_file env hj, recorder, Machine.outputs_cascade]
  exact (framer_chunks (demuxCall_of_mem env.starttime (packets es)) []).2

/-- **The GPS stream is in the log file.** If the stream that the well-formed datagrams of the
COTS GPS carry, with increasing numbers and at most 249 bytes of it each, consists of frames of
packets with 1 to 256 bytes and has no A0 between them, then the records with an ID `V8..` in the
log file are these packets, each once and in order, the first byte in the ID and the others as
data. -/
theorem gps_stream_recorded {ok : ℕ → Bool} (hwrites : ∀ n, ok n = true) (es : List Event)
    (pieces : List (Bytes × Bytes))
    (hclean : Gps.CleanPieces pieces) (hne : ∀ piece ∈ pieces, piece.2 ≠ [])
    (hinc : (numbers .GPSCOTS (packets es)).Pairwise (· < ·))
    (hchunks : ∀ p ∈ Ethmux.wellFormed .GPSCOTS (packets es), p.received.length ≤ 253)
    (hstream : (Ethmux.wellFormed .GPSCOTS (packets es)).flatMap (fun p => p.received.drop 4) =
      Gps.venusStream pieces) :
    ∃ records, recordCodec.decodeAll (logFile (sent ok (session env es))) = some records ∧
      (records.filter FromVenus).map (fun r => (r.ID, r.data)) =
        pieces.map fun piece => Gps.packetRecord piece.2 := by
  rw [sent_of_ok hwrites]
  have hcots : cotsMessages env.starttime (packets es) =
      (Ethmux.wellFormed .GPSCOTS (packets es)).map (delivery env.starttime .GPSCOTS) :=
    Ethmux.deliveries_outputs env.starttime hinc
  have hms : ∀ m ∈ cotsMessages env.starttime (packets es), m.dataLength.toNat ≤ 249 := by
    intro m hm
    rw [hcots] at hm
    obtain ⟨p, hp, rfl⟩ := List.mem_map.mp hm
    have hle := hchunks p hp
    rw [Ethmux.toNat_dataLength_delivery]
    omega
  have hbytes : Gps.stream (cotsMessages env.starttime (packets es)) = Gps.venusStream pieces := by
    rw [hcots, Gps.stream, List.map_map, ← List.flatMap_def, ← hstream]
    apply List.flatMap_congr
    intro p _
    exact Ethmux.payload_delivery env.starttime .GPSCOTS p
  have hpackets := (Gps.packets_venusStream hms hclean hbytes).1
  -- none of the frames is empty, so the log is what it should be
  have hnonempty : ∀ o ∈ Gps.machine.outputs (cotsMessages env.starttime (packets es)),
      o.frame.packet ≠ [] := by
    intro o ho
    have hmem : o.frame.packet ∈ pieces.map Prod.snd := hpackets ▸ List.mem_map_of_mem ho
    obtain ⟨piece, hpiece, heq⟩ := List.mem_map.mp hmem
    rw [← heq]
    exact hne piece hpiece
  obtain ⟨j, hentries, hfile, -⟩ :=
    exists_files env ((noEmptyPackets_iff_outputs env es).mpr hnonempty)
  have hrecords := congrArg (List.map Gps.packetRecord) hpackets
  rw [List.map_map, List.map_map] at hrecords
  refine ⟨j.fileRecords, hfile, ?_⟩
  rw [venusRecords_file env hentries, List.map_map]
  refine Eq.trans ?_ hrecords
  apply List.map_congr_left
  intro o ho
  obtain ⟨b, hb⟩ := Main.exists_frame_of_mem ho
  exact Gps.packetRecord_message hb (hnonempty o ho)

/-- A frame behind a stray byte, cut inside its length field. -/
theorem gps_stream_recorded_cut :
    ∃ records, recordCodec.decodeAll (logFile (sent noFailures (session Main.stillEnv
        [.datagram (Ethmux.datagram Ethmux.GPS_COTS [0, 0, 0, 0, 7, 0xA0, 0xA1, 0]),
          .datagram (Ethmux.datagram Ethmux.GPS_COTS
            [0, 0, 0, 1, 2, 0xA8, 2, 0xAA, 0x0D, 0x0A])]))) = some records ∧
      (records.filter FromVenus).map (fun r => (r.ID, r.data)) =
        [(messageID 'V' '8' 'A' '8', [2])] :=
  gps_stream_recorded Main.stillEnv (fun _ => rfl)
    [.datagram (Ethmux.datagram Ethmux.GPS_COTS [0, 0, 0, 0, 7, 0xA0, 0xA1, 0]),
      .datagram (Ethmux.datagram Ethmux.GPS_COTS [0, 0, 0, 1, 2, 0xA8, 2, 0xAA, 0x0D, 0x0A])]
    [([7], [0xA8, 2])] (by decide) (by decide) (by decide) (by decide) (by decide)

end Program
end FlightComputer
