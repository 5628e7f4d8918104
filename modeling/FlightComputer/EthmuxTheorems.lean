import FlightComputer.Ethmux
import Mathlib.Algebra.BigOperators.Group.List.Basic

/-!
# Sequence numbers

What a source gets delivered, and what is reported about it, over every interleaving of the
datagrams of all ports. The counter of a source is a function of the numbers received from
it (`nextSequence_run`), so a delivery can be told from the datagram received just before
(`deliveries_calls`); the loss reports then telescope.
-/

namespace FlightComputer
namespace Ethmux

variable (starttime : Timespec) (src : Source)

/-! ## Datagrams -/

/-- The sender's port. -/
def Packet.port (p : Packet) : ℕ := ntohs p.sinPort

/-- What is read of the payload. -/
def Packet.received (p : Packet) : Bytes := p.payload.take ETH_MTU

/-- The big-endian number in the first four bytes. -/
def Packet.number (p : Packet) : ℕ := beNat (p.received.take 4)

/-- A datagram of the source; empty ones are taken for a closed connection. -/
def From (p : Packet) : Prop := route p.port = .sequenced src ∧ p.received ≠ []

instance (p : Packet) : Decidable (From src p) := inferInstanceAs (Decidable (_ ∧ _))

/-- A datagram of the source, of the expected length. -/
def WellFormed (p : Packet) : Prop := From src p ∧ isExpectedLength src p.received.length

instance (p : Packet) : Decidable (WellFormed src p) := inferInstanceAs (Decidable (_ ∧ _))

/-- A datagram of the source, of another length. -/
def WrongLength (p : Packet) : Prop := From src p ∧ ¬isExpectedLength src p.received.length

/-- The well-formed datagrams of the source, in order of arrival. -/
def wellFormed (ps : List Packet) : List Packet := ps.filter (WellFormed src ·)

/-- The sequence numbers received from the source, in order of arrival. -/
def numbers (ps : List Packet) : List ℕ := (wellFormed src ps).map Packet.number

/-- One more than the last number received; 0 before the first. -/
def lastPlusOne (ns : List ℕ) : ℕ :=
  match ns.getLast? with
  | none => 0
  | some n => n + 1

/-- The number expected next. -/
def nextNumber (ns : List ℕ) : ℕ := lastPlusOne ns % 2 ^ 32

/-! ## Calls -/

/-- The calls made for a datagram that arrives after some others. -/
def calls (pre : List Packet) (p : Packet) : List Output :=
  ((machine starttime).step ((machine starttime).run pre) p).2

/-- The messages handed over for the source. -/
def deliveries (outs : List Output) : List Message :=
  outs.filterMap fun
    | .demuxed handler m =>
      if handler = (demuxType src).handler ∧ m.ID = (demuxType src).ID then some m else none
    | _ => none

/-- The bytes after the sequence number, as they are handed over. -/
def delivery (p : Packet) : Message where
  ID := (demuxType src).ID
  timestamp := toPsasTime starttime p.ts
  dataLength := .ofNat (p.received.drop 4).length
  data := p.received.drop 4

/-- The contents of a SEQE message. -/
structure Report where
  port : ℕ
  expected : ℕ
  received : ℕ
deriving DecidableEq, Repr

/-- Read the big-endian fields of a SEQE message. -/
def Report.ofBytes (data : Bytes) : Report where
  port := beNat (data.take 2)
  expected := beNat ((data.drop 2).take 4)
  received := beNat ((data.drop 6).take 4)

/-- The reports on the source's port. -/
def reports (outs : List Output) : List Report :=
  outs.filterMap fun
    | .sequencedError m =>
      if route (Report.ofBytes m.payload).port = .sequenced src then
        some (Report.ofBytes m.payload)
      else none
    | _ => none

/-- The losses the reports on the source's port add up to. -/
def reportedLoss (outs : List Output) : ℤ :=
  ((reports src outs).map fun r => (r.received : ℤ) - r.expected).sum

@[simp] theorem deliveries_nil : deliveries src [] = [] := rfl

@[simp] theorem reports_nil : reports src [] = [] := rfl

@[simp] theorem deliveries_append (outs outs' : List Output) :
    deliveries src (outs ++ outs') = deliveries src outs ++ deliveries src outs' :=
  List.filterMap_append

@[simp] theorem reports_append (outs outs' : List Output) :
    reports src (outs ++ outs') = reports src outs ++ reports src outs' :=
  List.filterMap_append

theorem reportedLoss_append (outs outs' : List Output) :
    reportedLoss src (outs ++ outs') = reportedLoss src outs + reportedLoss src outs' := by
  rw [reportedLoss, reports_append, List.map_append, List.sum_append]
  rfl

@[simp] theorem lastPlusOne_snoc (ns : List ℕ) (n : ℕ) : lastPlusOne (ns ++ [n]) = n + 1 := by
  simp [lastPlusOne]

theorem nextNumber_lt (ns : List ℕ) : nextNumber ns < 2 ^ 32 := Nat.mod_lt _ (by omega)

@[simp] theorem nextNumber_snoc (ns : List ℕ) (n : ℕ) :
    nextNumber (ns ++ [n]) = (n + 1) % 2 ^ 32 := by
  rw [nextNumber, lastPlusOne_snoc]

/-- The number after the last one is not above a number larger than all. -/
theorem lastPlusOne_le {ns : List ℕ} {n : ℕ} (h : ∀ m ∈ ns, m < n) : lastPlusOne ns ≤ n := by
  unfold lastPlusOne
  split
  · omega
  · next m hlast => exact h m (List.mem_of_getLast? hlast)

/-- As long as the numbers increase, the next one is not expected to be larger, and the
expectation has not wrapped around. -/
theorem nextNumber_of_increasing {ns : List ℕ} {n : ℕ} (h : (ns ++ [n]).Pairwise (· < ·))
    (hn : n < 2 ^ 32) : nextNumber ns = lastPlusOne ns ∧ lastPlusOne ns ≤ n := by
  have hle := lastPlusOne_le fun m hm => (List.pairwise_append.mp h).2.2 m hm n (by simp)
  exact ⟨Nat.mod_eq_of_lt (by omega), hle⟩

theorem Packet.port_lt (p : Packet) : p.port < 2 ^ 16 := by
  have h := leNat_lt (beBytes 2 p.sinPort)
  rwa [length_beBytes] at h

theorem Packet.number_lt (p : Packet) : p.number < 2 ^ 32 := by
  have h := beNat_lt (p.received.take 4)
  have hle : (p.received.take 4).length ≤ 4 := List.length_take_le 4 _
  calc p.number < 256 ^ (p.received.take 4).length := h
    _ ≤ 256 ^ 4 := Nat.pow_le_pow_right (by omega) hle
    _ = 2 ^ 32 := by norm_num

/-! ## One datagram -/

/-- The fields of a SEQE message go out in big-endian order. -/
theorem toMem_network (port expected received : ℕ) :
    ({ port := htons port, expected := htonl expected, received := htonl received } :
      SequenceErrorData).toMem =
        beBytes 2 port ++ (beBytes 4 expected ++ beBytes 4 received) := by
  rw [SequenceErrorData.toMem, store_htons, store_htonl, store_htonl, List.append_assoc]

theorem ofBytes_network {port : ℕ} (expected received : ℕ) (hport : port < 2 ^ 16) :
    Report.ofBytes (beBytes 2 port ++ (beBytes 4 expected ++ beBytes 4 received)) =
      ⟨port, expected % 2 ^ 32, received % 2 ^ 32⟩ := by
  have hport' := beNat_beBytes_of_lt (k := 2) (by omega : port < 256 ^ 2)
  simp [Report.ofBytes, List.drop_append, List.take_of_length_le, List.drop_of_length_le,
    hport', beNat_beBytes]

/-- A SEQE message holds what it was formatted from. -/
theorem reports_formatSequencedError {port : ℕ} (expected received : ℕ) (timestamp : Timestamp)
    (hport : port < 2 ^ 16) :
    reports src [formatSequencedError port timestamp expected received] =
      if route port = .sequenced src then [⟨port, expected % 2 ^ 32, received % 2 ^ 32⟩]
      else [] := by
  have hmem := toMem_network port expected received
  have hpayload : memread (beBytes 2 port ++ (beBytes 4 expected ++ beBytes 4 received))
      sizeofSequenceErrorData = beBytes 2 port ++ (beBytes 4 expected ++ beBytes 4 received) := by
    have h := memread_length (beBytes 2 port ++ (beBytes 4 expected ++ beBytes 4 received))
    simpa [sizeofSequenceErrorData] using h
  have hlen : (UInt16.ofNat sizeofSequenceErrorData).toNat = sizeofSequenceErrorData := rfl
  simp only [reports, formatSequencedError, List.filterMap_cons, List.filterMap_nil,
    Message.payload, hlen, hmem, hpayload, ofBytes_network expected received hport]
  by_cases hroute : route port = .sequenced src
  · rw [if_pos hroute, if_pos hroute]
  · rw [if_neg hroute, if_neg hroute]

@[simp] theorem deliveries_formatSequencedError (port expected received : ℕ)
    (timestamp : Timestamp) :
    deliveries src [formatSequencedError port timestamp expected received] = [] := rfl

/-- The sources have different IDs. -/
theorem demuxType_ID_injective {src src' : Source}
    (h : (demuxType src).ID = (demuxType src').ID) : src = src' := by
  revert h
  cases src <;> cases src' <;> decide

/-- Only the GPS stream goes to `cots_raw_in`. -/
theorem handler_ne_demuxedCOTS {type : Source} (h : type ≠ .GPSCOTS) :
    (demuxType type).handler ≠ .demuxedCOTS := by
  cases type <;> simp [demuxType] at h ⊢

theorem deliveries_callHandler (type : Source) (timestamp : Timestamp) (buffer : Bytes) :
    deliveries src [callHandler type timestamp buffer] =
      if type = src then
        [{ ID := (demuxType src).ID
           timestamp := timestamp
           dataLength := .ofNat buffer.length
           data := buffer }]
      else [] := by
  by_cases htype : type = src
  · subst htype
    simp [deliveries, callHandler]
  · have hID : (demuxType type).ID ≠ (demuxType src).ID := fun h =>
      htype (demuxType_ID_injective h)
    simp [deliveries, callHandler, htype, hID]

@[simp] theorem reports_callHandler (type : Source) (timestamp : Timestamp) (buffer : Bytes) :
    reports src [callHandler type timestamp buffer] = [] := rfl

theorem four_le_of_expected {type : Source} {len : ℕ} (h : isExpectedLength type len) :
    4 ≤ len := by
  unfold isExpectedLength at h
  split_ifs at h <;> omega

/-- A datagram of the expected length sets the counter, and is handed over unless its number
is below it. -/
theorem sequencedReceive_of_expected {type : Source} {buffer : Bytes} (port : ℕ)
    (timestamp : Timestamp) (s : State) (h : isExpectedLength type buffer.length) :
    sequencedReceive port buffer timestamp type s =
      ({ s with nextSequence :=
          Function.update s.nextSequence type ((beNat (buffer.take 4) + 1) % 2 ^ 32) },
        (if beNat (buffer.take 4) = s.nextSequence type then []
          else [formatSequencedError port timestamp (s.nextSequence type)
            (beNat (buffer.take 4))]) ++
        (if beNat (buffer.take 4) < s.nextSequence type then []
          else [callHandler type timestamp (buffer.drop 4)])) := by
  have hlen := four_le_of_expected h
  have hnumber : ntohl (load (buffer.take 4)) = beNat (buffer.take 4) :=
    ntohl_load (by rw [List.length_take]; omega)
  unfold sequencedReceive
  rw [if_neg (not_not.mpr h)]
  dsimp only
  rw [hnumber]
  rcases lt_trichotomy (beNat (buffer.take 4)) (s.nextSequence type) with hlt | heq | hgt
  · simp [hlt, hlt.ne, hlt.le]
  · simp [heq]
  · simp [hgt, hgt.ne', hgt.not_gt]

theorem readsocketfromts_of_nil {p : Packet} (h : p.received = []) :
    readsocketfromts ETH_MTU p = (-1, []) := by
  unfold readsocketfromts
  rw [if_pos]
  change p.received.length = 0
  rw [h, List.length_nil]

theorem readsocketfromts_of_ne_nil {p : Packet} (h : p.received ≠ []) :
    readsocketfromts ETH_MTU p = ((p.received.length : ℤ), p.received) := by
  unfold readsocketfromts
  rw [if_neg]
  · rfl
  · change p.received.length ≠ 0
    simpa using h

theorem demux_of_nil {p : Packet} (s : State) (h : p.received = []) :
    demux starttime p s = (s, []) := by
  unfold demux
  rw [readsocketfromts_of_nil h]
  rfl

theorem demux_of_ne_nil {p : Packet} (s : State) (h : p.received ≠ []) :
    demux starttime p s =
      match route p.port with
      | .sequenced type =>
        sequencedReceive p.port p.received (toPsasTime starttime p.ts) type s
      | .arm => (s, [.demuxedARM p.received (toPsasTime starttime p.ts)])
      | .rc => (s, [.demuxedRC p.received (toPsasTime starttime p.ts)])
      | .default => (s, []) := by
  have hpos : ((p.received.length : ℕ) : ℤ) > 0 := by
    have := List.length_pos_iff.mpr h
    omega
  unfold demux
  rw [readsocketfromts_of_ne_nil h]
  dsimp only
  rw [if_pos hpos]
  rfl

theorem demux_of_from {src : Source} {p : Packet} (s : State) (h : From src p) :
    demux starttime p s =
      sequencedReceive p.port p.received (toPsasTime starttime p.ts) src s := by
  rw [demux_of_ne_nil starttime s h.2, h.1]

/-- **A well-formed datagram.** -/
theorem step_wellFormed {src : Source} {p : Packet} (s : State) (h : WellFormed src p) :
    (machine starttime).step s p =
      ({ s with nextSequence :=
          Function.update s.nextSequence src ((p.number + 1) % 2 ^ 32) },
        (if p.number = s.nextSequence src then []
          else [formatSequencedError p.port (toPsasTime starttime p.ts) (s.nextSequence src)
            p.number]) ++
        (if p.number < s.nextSequence src then []
          else [callHandler src (toPsasTime starttime p.ts) (p.received.drop 4)])) := by
  show demux starttime p s = _
  rw [demux_of_from starttime s h.1, sequencedReceive_of_expected _ _ _ h.2]
  rfl

/-- **A datagram of wrong length.** -/
theorem step_wrongLength {src : Source} {p : Packet} (s : State) (h : WrongLength src p) :
    (machine starttime).step s p =
      (s, [formatSequencedError p.port (toPsasTime starttime p.ts) 0 0]) := by
  show demux starttime p s = _
  rw [demux_of_from starttime s h.1, sequencedReceive, if_pos h.2]

/-- Every datagram is well-formed, of wrong length, or not the source's. -/
theorem datagram_cases (p : Packet) : WellFormed src p ∨ WrongLength src p ∨ ¬From src p := by
  by_cases hfrom : From src p
  · by_cases hlen : isExpectedLength src p.received.length
    · exact Or.inl ⟨hfrom, hlen⟩
    · exact Or.inr (Or.inl ⟨hfrom, hlen⟩)
  · exact Or.inr (Or.inr hfrom)

/-- What `demux` can call for a datagram. -/
theorem mem_step {s : State} {p : Packet} {o : Output}
    (h : o ∈ ((machine starttime).step s p).2) :
    (∃ expected received,
        o = formatSequencedError p.port (toPsasTime starttime p.ts) expected received) ∨
      (∃ type, WellFormed type p ∧ s.nextSequence type ≤ p.number ∧
        o = callHandler type (toPsasTime starttime p.ts) (p.received.drop 4)) ∨
      (∃ buffer timestamp, o = .demuxedARM buffer timestamp) ∨
      ∃ buffer timestamp, o = .demuxedRC buffer timestamp := by
  by_cases hnil : p.received = []
  · change o ∈ (demux starttime p s).2 at h
    rw [demux_of_nil starttime s hnil] at h
    cases h
  · cases hroute : route p.port with
    | sequenced type =>
      rcases datagram_cases type p with hwell | hwrong | hother
      · rw [step_wellFormed starttime s hwell] at h
        rcases List.mem_append.mp h with h | h
        · split_ifs at h
          · cases h
          · exact Or.inl ⟨_, _, List.mem_singleton.mp h⟩
        · split_ifs at h with hstale
          · cases h
          · exact Or.inr (Or.inl ⟨type, hwell, not_lt.mp hstale, List.mem_singleton.mp h⟩)
      · rw [step_wrongLength starttime s hwrong] at h
        exact Or.inl ⟨_, _, List.mem_singleton.mp h⟩
      · exact absurd ⟨hroute, hnil⟩ hother
    | arm =>
      change o ∈ (demux starttime p s).2 at h
      rw [demux_of_ne_nil starttime s hnil, hroute] at h
      exact Or.inr (Or.inr (Or.inl ⟨_, _, List.mem_singleton.mp h⟩))
    | rc =>
      change o ∈ (demux starttime p s).2 at h
      rw [demux_of_ne_nil starttime s hnil, hroute] at h
      exact Or.inr (Or.inr (Or.inr ⟨_, _, List.mem_singleton.mp h⟩))
    | default =>
      change o ∈ (demux starttime p s).2 at h
      rw [demux_of_ne_nil starttime s hnil, hroute] at h
      cases h

/-- **A datagram of another sender.** It does nothing for the source. -/
theorem step_other {src : Source} {p : Packet} (s : State) (h : ¬From src p) :
    ((machine starttime).step s p).1.nextSequence src = s.nextSequence src ∧
      deliveries src ((machine starttime).step s p).2 = [] ∧
      reports src ((machine starttime).step s p).2 = [] := by
  change (demux starttime p s).1.nextSequence src = _ ∧ deliveries src (demux starttime p s).2 = []
    ∧ reports src (demux starttime p s).2 = []
  by_cases hnil : p.received = []
  · rw [demux_of_nil starttime s hnil]
    exact ⟨rfl, rfl, rfl⟩
  · cases hroute : route p.port with
    | sequenced type =>
      have hne : type ≠ src := by
        intro heq
        exact h ⟨heq ▸ hroute, hnil⟩
      have hroute' : route p.port ≠ .sequenced src := by
        rw [hroute]
        simpa using hne
      have hreport : ∀ expected received timestamp,
          reports src [formatSequencedError p.port timestamp expected received] = [] := by
        intro expected received timestamp
        rw [reports_formatSequencedError src expected received timestamp p.port_lt, if_neg hroute']
      by_cases hlen : isExpectedLength type p.received.length
      -- another source's counter, deliveries and reports
      · have hstep := step_wellFormed starttime s (⟨⟨hroute, hnil⟩, hlen⟩ : WellFormed type p)
        change demux starttime p s = _ at hstep
        rw [hstep]
        refine ⟨Function.update_of_ne hne.symm _ _, ?_, ?_⟩
        · rw [deliveries_append]
          split_ifs <;> simp [deliveries_callHandler, hne]
        · rw [reports_append]
          split_ifs <;> simp [hreport]
      · have hstep := step_wrongLength starttime s (⟨⟨hroute, hnil⟩, hlen⟩ : WrongLength type p)
        change demux starttime p s = _ at hstep
        rw [hstep]
        exact ⟨rfl, rfl, hreport _ _ _⟩
    | arm | rc | default =>
      rw [demux_of_ne_nil starttime s hnil, hroute]
      exact ⟨rfl, rfl, rfl⟩

/-! ## Runs -/

theorem WrongLength.not_wellFormed {src : Source} {p : Packet} (h : WrongLength src p) :
    ¬WellFormed src p := fun hwell => h.2 hwell.2

theorem not_wellFormed_of_not_from {src : Source} {p : Packet} (h : ¬From src p) :
    ¬WellFormed src p := fun hwell => h hwell.1

theorem wellFormed_snoc (ps : List Packet) (p : Packet) :
    wellFormed src (ps ++ [p]) = wellFormed src ps ++ if WellFormed src p then [p] else [] := by
  by_cases h : WellFormed src p
  · simp [wellFormed, List.filter_append, h]
  · simp [wellFormed, List.filter_append, h]

variable {src} in
theorem numbers_snoc_of_wellFormed (ps : List Packet) {p : Packet} (h : WellFormed src p) :
    numbers src (ps ++ [p]) = numbers src ps ++ [p.number] := by
  rw [numbers, wellFormed_snoc, if_pos h, List.map_append]
  rfl

variable {src} in
theorem numbers_snoc_of_not_wellFormed (ps : List Packet) {p : Packet} (h : ¬WellFormed src p) :
    numbers src (ps ++ [p]) = numbers src ps := by
  rw [numbers, wellFormed_snoc, if_neg h, List.append_nil]
  rfl

/-- **The counter of a source.** It is one more than the last number received from it,
whatever else arrived. -/
theorem nextSequence_run (ps : List Packet) :
    ((machine starttime).run ps).nextSequence src = nextNumber (numbers src ps) := by
  induction ps using List.reverseRecOn with
  | nil => rfl
  | append_singleton ps p ih =>
    rw [Machine.run_snoc]
    rcases datagram_cases src p with hwell | hwrong | hother
    · rw [step_wellFormed starttime _ hwell, numbers_snoc_of_wellFormed ps hwell, nextNumber_snoc]
      exact Function.update_self _ _ _
    · rw [step_wrongLength starttime _ hwrong, ih,
        numbers_snoc_of_not_wellFormed ps hwrong.not_wellFormed]
    · rw [(step_other starttime _ hother).1, ih,
        numbers_snoc_of_not_wellFormed ps (not_wellFormed_of_not_from hother)]

variable {src}

/-- **The calls for a well-formed datagram.** -/
theorem calls_wellFormed (pre : List Packet) {p : Packet} (h : WellFormed src p) :
    calls starttime pre p =
      (if p.number = nextNumber (numbers src pre) then []
        else [formatSequencedError p.port (toPsasTime starttime p.ts)
          (nextNumber (numbers src pre)) p.number]) ++
      (if p.number < nextNumber (numbers src pre) then []
        else [callHandler src (toPsasTime starttime p.ts) (p.received.drop 4)]) := by
  rw [calls, step_wellFormed starttime _ h, nextSequence_run]

theorem deliveries_calls (pre : List Packet) {p : Packet} (h : WellFormed src p) :
    deliveries src (calls starttime pre p) =
      if p.number < nextNumber (numbers src pre) then [] else [delivery starttime src p] := by
  rw [calls_wellFormed starttime pre h, deliveries_append]
  split_ifs <;> simp [deliveries_callHandler, delivery]

theorem reports_calls (pre : List Packet) {p : Packet} (h : WellFormed src p) :
    reports src (calls starttime pre p) =
      if p.number = nextNumber (numbers src pre) then []
      else [⟨p.port, nextNumber (numbers src pre), p.number⟩] := by
  have hexpected := Nat.mod_eq_of_lt (nextNumber_lt (numbers src pre))
  have hreceived := Nat.mod_eq_of_lt p.number_lt
  have hreport := reports_formatSequencedError src (nextNumber (numbers src pre)) p.number
    (toPsasTime starttime p.ts) p.port_lt
  rw [if_pos h.1.1, hexpected, hreceived] at hreport
  rw [calls_wellFormed starttime pre h, reports_append]
  split_ifs <;> simp [hreport]

theorem outputs_snoc_calls (pre : List Packet) (p : Packet) :
    (machine starttime).outputs (pre ++ [p]) =
      (machine starttime).outputs pre ++ calls starttime pre p :=
  Machine.outputs_snoc _ _ _

/-- A datagram of wrong length, or of another sender, adds nothing. -/
theorem account_of_not_wellFormed (pre : List Packet) {p : Packet} (h : ¬WellFormed src p) :
    reportedLoss src (calls starttime pre p) = 0 ∧ deliveries src (calls starttime pre p) = [] := by
  rw [calls]
  rcases datagram_cases src p with hwell | hwrong | hother
  · exact absurd hwell h
  · rw [step_wrongLength starttime _ hwrong, reportedLoss,
      reports_formatSequencedError src 0 0 (toPsasTime starttime p.ts) p.port_lt,
      if_pos hwrong.1.1]
    exact ⟨rfl, rfl⟩
  · obtain ⟨-, hdeliveries, hreports⟩ :=
      step_other starttime ((machine starttime).run pre) hother
    rw [reportedLoss, hreports]
    exact ⟨rfl, hdeliveries⟩

theorem length_received_le (p : Packet) : p.received.length ≤ 1500 := List.length_take_le _ _

/-- The length that is handed over. -/
theorem toNat_dataLength_delivery (p : Packet) :
    (delivery starttime src p).dataLength.toNat = p.received.length - 4 := by
  have hle := length_received_le p
  show (UInt16.ofNat (p.received.drop 4).length).toNat = _
  rw [List.length_drop, UInt16.toNat_ofNat']
  exact Nat.mod_eq_of_lt (by omega)

theorem forall_mem_deliveries {P : Message → Prop} (outs : List Output) :
    (∀ m ∈ deliveries src outs, P m) ↔ ∀ o ∈ outs, ∀ m ∈ deliveries src [o], P m := by
  induction outs with
  | nil => simp
  | cons o outs ih =>
    rw [List.forall_mem_cons, ← ih, ← List.forall_mem_append, ← deliveries_append]
    rfl

/-- What is handed over, in terms of the datagrams: those that are not late. -/
theorem forall_mem_deliveries_iff {P : Message → Prop} (ps : List Packet) :
    (∀ m ∈ deliveries src ((machine starttime).outputs ps), P m) ↔
      ∀ pre p post, ps = pre ++ p :: post → WellFormed src p →
        nextNumber (numbers src pre) ≤ p.number → P (delivery starttime src p) := by
  rw [forall_mem_deliveries, Machine.forall_mem_outputs_iff]
  apply forall_congr'
  intro pre
  apply forall_congr'
  intro p
  apply forall_congr'
  intro post
  apply imp_congr_right
  intro hsplit
  rw [← forall_mem_deliveries]
  change (∀ m ∈ deliveries src (calls starttime pre p), P m) ↔ _
  by_cases hwell : WellFormed src p
  · rw [deliveries_calls starttime pre hwell]
    by_cases hstale : p.number < nextNumber (numbers src pre)
    · simp [hstale]
    · simp [hstale, hwell, not_lt.mp hstale]
  · rw [(account_of_not_wellFormed starttime pre hwell).2]
    simp [hwell]

/-! ## Increasing numbers -/

theorem numbers_append_cons (pre post : List Packet) {p : Packet} (h : WellFormed src p) :
    numbers src (pre ++ p :: post) = (numbers src pre ++ [p.number]) ++ numbers src post := by
  simp [numbers, wellFormed, List.filter_append, h]

/-- The number of a datagram, in a run of increasing numbers. -/
theorem nextNumber_of_split {pre post : List Packet} {p : Packet} (h : WellFormed src p)
    (hinc : (numbers src (pre ++ p :: post)).Pairwise (· < ·)) :
    nextNumber (numbers src pre) = lastPlusOne (numbers src pre) ∧
      lastPlusOne (numbers src pre) ≤ p.number := by
  rw [numbers_append_cons pre post h] at hinc
  exact nextNumber_of_increasing (List.pairwise_append.mp hinc).1 p.number_lt

/-- What a datagram that is handed over adds to the account. -/
theorem account_calls (pre : List Packet) {p : Packet} (h : WellFormed src p)
    (hle : nextNumber (numbers src pre) ≤ p.number) :
    reportedLoss src (calls starttime pre p) + (deliveries src (calls starttime pre p)).length =
      (p.number + 1 : ℤ) - nextNumber (numbers src pre) := by
  rw [reportedLoss, reports_calls starttime pre h, deliveries_calls starttime pre h,
    if_neg (by omega : ¬p.number < nextNumber (numbers src pre))]
  by_cases heq : p.number = nextNumber (numbers src pre)
  · rw [if_pos heq]
    simp [heq]
  · rw [if_neg heq]
    simp only [List.map_cons, List.map_nil, List.sum_cons, List.sum_nil, List.length_cons,
      List.length_nil]
    omega

/-- Increasing numbers are all handed over. -/
theorem deliveries_outputs {ps : List Packet} (hinc : (numbers src ps).Pairwise (· < ·)) :
    deliveries src ((machine starttime).outputs ps) =
      (wellFormed src ps).map (delivery starttime src) := by
  induction ps using List.reverseRecOn with
  | nil => rfl
  | append_singleton ps p ih =>
    rw [outputs_snoc_calls, deliveries_append, wellFormed_snoc, List.map_append]
    by_cases hwell : WellFormed src p
    · have hnext := nextNumber_of_split hwell hinc
      rw [numbers_snoc_of_wellFormed ps hwell] at hinc
      rw [ih (List.pairwise_append.mp hinc).1, deliveries_calls starttime ps hwell, if_pos hwell,
        if_neg (by omega)]
      rfl
    · rw [numbers_snoc_of_not_wellFormed ps hwell] at hinc
      rw [ih hinc, (account_of_not_wellFormed starttime ps hwell).2, if_neg hwell]
      rfl

/-- The reported loss telescopes. -/
theorem reportedLoss_outputs {ps : List Packet} (hinc : (numbers src ps).Pairwise (· < ·)) :
    reportedLoss src ((machine starttime).outputs ps)
        + (deliveries src ((machine starttime).outputs ps)).length =
      lastPlusOne (numbers src ps) := by
  induction ps using List.reverseRecOn with
  | nil => rfl
  | append_singleton ps p ih =>
    rw [outputs_snoc_calls, deliveries_append, reportedLoss_append, List.length_append]
    by_cases hwell : WellFormed src p
    · obtain ⟨hnext, hle⟩ := nextNumber_of_split hwell hinc
      have haccount := account_calls starttime ps hwell (by omega)
      rw [numbers_snoc_of_wellFormed ps hwell] at hinc ⊢
      have hrest := ih (List.pairwise_append.mp hinc).1
      rw [hnext] at haccount
      rw [lastPlusOne_snoc]
      omega
    · obtain ⟨hloss, hdeliveries⟩ := account_of_not_wellFormed starttime ps hwell
      rw [numbers_snoc_of_not_wellFormed ps hwell] at hinc ⊢
      have hrest := ih hinc
      rw [hloss, hdeliveries, List.length_nil]
      omega

variable (src)

/-- **Loss accounting.** While the numbers of a source increase, whatever else arrives:
every well-formed datagram is handed over once, in order; a report is made of each gap and
of each datagram of wrong length, and of nothing else; and the reported losses and the
deliveries add up to the last number plus one. -/
theorem loss_accounting (ps : List Packet) (hinc : (numbers src ps).Pairwise (· < ·)) :
    deliveries src ((machine starttime).outputs ps) =
        (wellFormed src ps).map (delivery starttime src) ∧
      (∀ pre p post, ps = pre ++ p :: post → WellFormed src p →
        calls starttime pre p =
          (if p.number = lastPlusOne (numbers src pre) then []
            else [formatSequencedError p.port (toPsasTime starttime p.ts)
              (lastPlusOne (numbers src pre)) p.number]) ++
          [callHandler src (toPsasTime starttime p.ts) (p.received.drop 4)]) ∧
      (∀ pre p post, ps = pre ++ p :: post → WrongLength src p →
        calls starttime pre p =
            [formatSequencedError p.port (toPsasTime starttime p.ts) 0 0] ∧
          (machine starttime).run (pre ++ [p]) = (machine starttime).run pre) ∧
      (∀ pre p post, ps = pre ++ p :: post → ¬From src p →
        deliveries src (calls starttime pre p) = [] ∧ reports src (calls starttime pre p) = [] ∧
          ((machine starttime).run (pre ++ [p])).nextSequence src =
            ((machine starttime).run pre).nextSequence src) ∧
      reportedLoss src ((machine starttime).outputs ps)
          + (deliveries src ((machine starttime).outputs ps)).length =
        lastPlusOne (numbers src ps) := by
  refine ⟨deliveries_outputs starttime hinc, ?_, ?_, ?_, reportedLoss_outputs starttime hinc⟩
  · intro pre p post hsplit hwell
    subst hsplit
    obtain ⟨hnext, hle⟩ := nextNumber_of_split hwell hinc
    rw [calls_wellFormed starttime pre hwell, hnext]
    congr 1
    exact if_neg (by omega)
  · intro pre p post hsplit hwrong
    rw [calls, Machine.run_snoc, step_wrongLength starttime _ hwrong]
    exact ⟨rfl, rfl⟩
  · intro pre p post hsplit hother
    rw [calls, Machine.run_snoc]
    obtain ⟨hcounter, hdeliveries, hreports⟩ :=
      step_other starttime ((machine starttime).run pre) hother
    exact ⟨hdeliveries, hreports, hcounter⟩

/-- A datagram from a port, stamped at the epoch. -/
def datagram (port : ℕ) (payload : Bytes) : Packet := ⟨htons port, payload, ⟨0, 0⟩⟩

/-- A gap, a datagram of another port and one of wrong length. -/
theorem loss_accounting_gap :
    reportedLoss .JGPS ((machine ⟨0, 0⟩).outputs
          [datagram JGPS_PORT [0, 0, 0, 2, 7], datagram ADIS_PORT [0, 0, 0, 9],
            datagram JGPS_PORT [1, 2], datagram JGPS_PORT [0, 0, 0, 3]])
        + (deliveries .JGPS ((machine ⟨0, 0⟩).outputs
          [datagram JGPS_PORT [0, 0, 0, 2, 7], datagram ADIS_PORT [0, 0, 0, 9],
            datagram JGPS_PORT [1, 2], datagram JGPS_PORT [0, 0, 0, 3]])).length =
      lastPlusOne (numbers .JGPS
          [datagram JGPS_PORT [0, 0, 0, 2, 7], datagram ADIS_PORT [0, 0, 0, 9],
            datagram JGPS_PORT [1, 2], datagram JGPS_PORT [0, 0, 0, 3]]) :=
  (loss_accounting ⟨0, 0⟩ .JGPS
    [datagram JGPS_PORT [0, 0, 0, 2, 7], datagram ADIS_PORT [0, 0, 0, 9],
      datagram JGPS_PORT [1, 2], datagram JGPS_PORT [0, 0, 0, 3]] (by decide)).2.2.2.2

/-- An empty datagram is not reported, and one larger than the buffer is cut. -/
theorem unread_bytes_unaccounted :
    (datagram ADIS_PORT []).port = ADIS_PORT ∧
      ¬isExpectedLength .ADIS (datagram ADIS_PORT []).payload.length ∧
      (machine ⟨0, 0⟩).outputs [datagram ADIS_PORT []] = [] ∧
      (deliveries .JGPS ((machine ⟨0, 0⟩).outputs
        [datagram JGPS_PORT (List.replicate 1501 0)])).map (·.data.length) = [1496] := by
  refine ⟨by decide, by decide, by decide, ?_⟩
  decide +kernel

/-! ## Deliveries of one number -/

/-- A datagram that is handed over. -/
def Delivered (pre : List Packet) (p : Packet) : Prop :=
  deliveries src (calls starttime pre p) ≠ []

/-- A well-formed datagram that is not handed over. -/
def Withheld (pre : List Packet) (p : Packet) : Prop :=
  WellFormed src p ∧ ¬Delivered starttime src pre p

theorem delivered_iff (pre : List Packet) (p : Packet) :
    Delivered starttime src pre p ↔
      WellFormed src p ∧ nextNumber (numbers src pre) ≤ p.number := by
  unfold Delivered
  by_cases hwell : WellFormed src p
  · rw [deliveries_calls starttime pre hwell]
    by_cases hstale : p.number < nextNumber (numbers src pre)
    · simp [hwell, hstale]
    · simp [hwell, hstale, not_lt.mp hstale]
  · rw [(account_of_not_wellFormed starttime pre hwell).2]
    simp [hwell]

theorem numbers_append (ps ps' : List Packet) :
    numbers src (ps ++ ps') = numbers src ps ++ numbers src ps' := by
  simp [numbers, wellFormed, List.filter_append]

variable {src} in
theorem numbers_cons_of_wellFormed (ps : List Packet) {p : Packet} (h : WellFormed src p) :
    numbers src (p :: ps) = p.number :: numbers src ps := by
  simp [numbers, wellFormed, h]

variable {src} in
theorem numbers_cons_of_not_wellFormed (ps : List Packet) {p : Packet} (h : ¬WellFormed src p) :
    numbers src (p :: ps) = numbers src ps := by
  simp [numbers, wellFormed, h]

theorem lt_of_mem_numbers {src : Source} {ps : List Packet} {n : ℕ} (h : n ∈ numbers src ps) :
    n < 2 ^ 32 := by
  obtain ⟨p, -, rfl⟩ := List.mem_map.mp h
  exact p.number_lt

/-- The datagram received just before decides: a number is handed over when it is above the
last one, and any number after 2^32 - 1. -/
theorem nextNumber_le_iff {src : Source} {ps : List Packet} {l n : ℕ}
    (hlast : (numbers src ps).getLast? = some l) :
    nextNumber (numbers src ps) ≤ n ↔ l < n ∨ l = 2 ^ 32 - 1 := by
  have hl := lt_of_mem_numbers (List.mem_of_getLast? hlast)
  rw [nextNumber, lastPlusOne, hlast]
  dsimp only
  -- after the largest number the counter is 0, and lets everything pass
  by_cases hwrap : l = 2 ^ 32 - 1
  · subst hwrap
    norm_num
  · rw [Nat.mod_eq_of_lt (by omega)]
    omega

/-- A number not above the last one is only handed over after a lower one was withheld, or
after the counter wrapped around. -/
theorem withheld_or_wrapped {src : Source} {pre mid : List Packet} {q : Packet} {l : ℕ}
    (hlast : (numbers src pre).getLast? = some l) (hle : q.number ≤ l) (hwrap : l ≠ 2 ^ 32 - 1)
    (hq : Delivered starttime src (pre ++ mid) q) :
    (∃ mid₁ r mid₂, mid = mid₁ ++ r :: mid₂ ∧ Withheld starttime src (pre ++ mid₁) r ∧
        r.number < q.number) ∨ 2 ^ 32 - 1 ∈ numbers src mid := by
  induction mid generalizing pre l with
  | nil =>
    rw [List.append_nil, delivered_iff, nextNumber_le_iff hlast] at hq
    omega
  -- the first datagram in between decides, or the last number before the rest is its own
  | cons r mid ih =>
    -- the split found after `r` is one after `r :: mid`
    have hextend : ∀ mid₁ s mid₂, mid = mid₁ ++ s :: mid₂ →
        Withheld starttime src (pre ++ [r] ++ mid₁) s → s.number < q.number →
        ∃ mid₁ s mid₂, r :: mid = mid₁ ++ s :: mid₂ ∧
          Withheld starttime src (pre ++ mid₁) s ∧ s.number < q.number := by
      intro mid₁ s mid₂ hsplit hs hlt
      refine ⟨r :: mid₁, s, mid₂, by rw [hsplit, List.cons_append], ?_, hlt⟩
      rwa [List.append_cons]
    rw [List.append_cons] at hq
    by_cases hwell : WellFormed src r
    · rw [numbers_cons_of_wellFormed mid hwell]
      by_cases hwrap' : r.number = 2 ^ 32 - 1
      · right
        rw [hwrap']
        exact List.mem_cons_self
      by_cases hlt : r.number < q.number
      · left
        refine ⟨[], r, mid, rfl, ⟨hwell, ?_⟩, hlt⟩
        rw [List.append_nil, delivered_iff, nextNumber_le_iff hlast]
        omega
      · have hlast' : (numbers src (pre ++ [r])).getLast? = some r.number := by
          rw [numbers_snoc_of_wellFormed pre hwell, List.getLast?_concat]
        rcases ih hlast' (by omega) hwrap' hq with ⟨mid₁, s, mid₂, hsplit, hs, hslt⟩ | hmem
        · exact Or.inl (hextend mid₁ s mid₂ hsplit hs hslt)
        · exact Or.inr (List.mem_cons_of_mem _ hmem)
    · have hlast' : (numbers src (pre ++ [r])).getLast? = some l := by
        rw [numbers_snoc_of_not_wellFormed pre hwell, hlast]
      rw [numbers_cons_of_not_wellFormed mid hwell]
      rcases ih hlast' hle hwrap hq with ⟨mid₁, s, mid₂, hsplit, hs, hslt⟩ | hmem
      · exact Or.inl (hextend mid₁ s mid₂ hsplit hs hslt)
      · exact Or.inr hmem

/-- **A second delivery of one number.** It happens exactly when the datagram received just
before has a lower number, or the number 2^32 - 1. Unless that last number was received in
between, a datagram below the number was withheld in between, and set the counter back. -/
theorem redelivery (pre mid : List Packet) (p q : Packet)
    (hp : Delivered starttime src pre p) (hpq : p.number = q.number) :
    (Delivered starttime src (pre ++ p :: mid) q ↔
        WellFormed src q ∧ ∃ l, (numbers src (p :: mid)).getLast? = some l ∧
          (l < q.number ∨ l = 2 ^ 32 - 1)) ∧
      (Delivered starttime src (pre ++ p :: mid) q →
        2 ^ 32 - 1 ∈ numbers src (p :: mid) ∨
          ∃ mid₁ r mid₂, mid = mid₁ ++ r :: mid₂ ∧
            Withheld starttime src (pre ++ p :: mid₁) r ∧ r.number < q.number) := by
  have hwell := ((delivered_iff starttime src pre p).mp hp).1
  constructor
  · have hcons := numbers_cons_of_wellFormed mid hwell
    obtain ⟨l, hlast⟩ : ∃ l, (numbers src (p :: mid)).getLast? = some l := by
      rw [hcons]
      exact ⟨_, List.getLast?_cons⟩
    have hlast' : (numbers src (pre ++ p :: mid)).getLast? = some l := by
      rw [numbers_append, List.getLast?_append, hlast, Option.some_or]
    rw [delivered_iff, nextNumber_le_iff hlast', hlast]
    simp
  · intro hq
    by_cases hwrap : p.number = 2 ^ 32 - 1
    · left
      rw [numbers_cons_of_wellFormed mid hwell, hwrap]
      exact List.mem_cons_self
    · have hlast : (numbers src (pre ++ [p])).getLast? = some p.number := by
        rw [numbers_snoc_of_wellFormed pre hwell, List.getLast?_concat]
      rw [List.append_cons] at hq
      rcases withheld_or_wrapped starttime hlast hpq.ge hwrap hq with
        ⟨mid₁, r, mid₂, hsplit, hr, hlt⟩ | hmem
      · right
        refine ⟨mid₁, r, mid₂, hsplit, ?_, hlt⟩
        rwa [List.append_cons]
      · left
        rw [numbers_cons_of_wellFormed mid hwell]
        exact List.mem_cons_of_mem _ hmem

/-- The datagrams 1, 0 and 1 again. -/
theorem redelivery_after_stale :
    2 ^ 32 - 1 ∈ numbers .JGPS
        [datagram JGPS_PORT [0, 0, 0, 1], datagram JGPS_PORT [0, 0, 0, 0]] ∨
      ∃ mid₁ r mid₂, [datagram JGPS_PORT [0, 0, 0, 0]] = mid₁ ++ r :: mid₂ ∧
        Withheld ⟨0, 0⟩ .JGPS ([] ++ datagram JGPS_PORT [0, 0, 0, 1] :: mid₁) r ∧
        r.number < (datagram JGPS_PORT [0, 0, 0, 1]).number :=
  (redelivery ⟨0, 0⟩ .JGPS [] [datagram JGPS_PORT [0, 0, 0, 0]] (datagram JGPS_PORT [0, 0, 0, 1])
    (datagram JGPS_PORT [0, 0, 0, 1]) (by unfold Delivered; decide) rfl).2
    (by unfold Delivered; decide)

/-- The handler is called twice for number 1, and twice for the number 2^32 - 1. -/
theorem delivered_twice :
    deliveries .JGPS ((machine ⟨0, 0⟩).outputs
        [datagram JGPS_PORT [0, 0, 0, 1], datagram JGPS_PORT [0, 0, 0, 0],
          datagram JGPS_PORT [0, 0, 0, 1]]) =
      [delivery ⟨0, 0⟩ .JGPS (datagram JGPS_PORT [0, 0, 0, 1]),
        delivery ⟨0, 0⟩ .JGPS (datagram JGPS_PORT [0, 0, 0, 1])] ∧
    deliveries .JGPS ((machine ⟨0, 0⟩).outputs
        [datagram JGPS_PORT [255, 255, 255, 255], datagram JGPS_PORT [255, 255, 255, 255]]) =
      [delivery ⟨0, 0⟩ .JGPS (datagram JGPS_PORT [255, 255, 255, 255]),
        delivery ⟨0, 0⟩ .JGPS (datagram JGPS_PORT [255, 255, 255, 255])] := by
  decide

/-! ## Fresh data -/

/-- The numbers follow each other, modulo 2^32. -/
def Consecutive (ns : List ℕ) : Prop := ns.IsChain fun n n' => n' = (n + 1) % 2 ^ 32

instance (ns : List ℕ) : Decidable (Consecutive ns) :=
  inferInstanceAs (Decidable (ns.IsChain _))

/-- A well-formed datagram makes the counter fit for the number after its own. -/
theorem nextSequence_step {src : Source} (s : State) {p : Packet} (h : WellFormed src p) :
    ((machine starttime).step s p).1.nextSequence src = (p.number + 1) % 2 ^ 32 := by
  rw [step_wellFormed starttime s h]
  exact Function.update_self _ _ _

/-- Once the counter fits, a burst is handed over. The induction is on the burst; each of its
datagrams leaves the counter fit for the next one, also where the numbers wrap around. -/
theorem emits_consecutive {s : State} {n : ℕ} {ps : List Packet}
    (hs : s.nextSequence src = (n + 1) % 2 ^ 32) (hlen : ∀ q ∈ ps, ¬WrongLength src q)
    (hburst : Consecutive (n :: numbers src ps)) :
    deliveries src ((machine starttime).emits s ps) =
        (wellFormed src ps).map (delivery starttime src) ∧
      reports src ((machine starttime).emits s ps) = [] := by
  induction ps generalizing s n with
  | nil => exact ⟨rfl, rfl⟩
  | cons q ps ih =>
    have hlen' : ∀ q ∈ ps, ¬WrongLength src q := fun q' hq' => hlen q' (List.mem_cons_of_mem q hq')
    rw [Machine.emits_cons, deliveries_append, reports_append]
    rcases datagram_cases src q with hwell | hwrong | hother
    · rw [numbers_cons_of_wellFormed ps hwell] at hburst
      obtain ⟨hnumber, hburst⟩ := List.isChain_cons_cons.mp hburst
      have hnumber' : q.number = s.nextSequence src := hnumber.trans hs.symm
      have hwellFormed : wellFormed src (q :: ps) = q :: wellFormed src ps :=
        List.filter_cons_of_pos (by simpa using hwell)
      have hnext := nextSequence_step starttime s hwell
      obtain ⟨hdeliveries, hreports⟩ := ih hnext hlen' hburst
      have hcall : ((machine starttime).step s q).2 =
          [callHandler src (toPsasTime starttime q.ts) (q.received.drop 4)] := by
        rw [step_wellFormed starttime s hwell, if_pos hnumber', if_neg hnumber'.not_lt]
        rfl
      rw [hcall, hdeliveries, hreports, hwellFormed, deliveries_callHandler, if_pos rfl]
      exact ⟨rfl, rfl⟩
    · exact absurd hwrong (hlen q List.mem_cons_self)
    · have hwell := not_wellFormed_of_not_from hother
      have hwellFormed : wellFormed src (q :: ps) = wellFormed src ps :=
        List.filter_cons_of_neg (by simpa using hwell)
      rw [numbers_cons_of_not_wellFormed ps hwell] at hburst
      obtain ⟨hcounter, hdeliveries, hreports⟩ := step_other starttime s hother
      rw [hdeliveries, hreports, hwellFormed, List.nil_append, List.nil_append]
      exact ih (hcounter.trans hs) hlen' hburst

/-- **Fresh data is never withheld.** A number above all numbers received before is handed
over; and from any state, whatever other senders send, a burst of consecutive numbers is
handed over, in order and without a report, from its second datagram on. -/
theorem fresh_data_delivered :
    (∀ pre p, WellFormed src p → (∀ n ∈ numbers src pre, n < p.number) →
        deliveries src (calls starttime pre p) = [delivery starttime src p]) ∧
      ∀ s p ps, WellFormed src p → (∀ q ∈ ps, ¬WrongLength src q) →
        Consecutive (numbers src (p :: ps)) →
          deliveries src ((machine starttime).emits ((machine starttime).step s p).1 ps) =
              (wellFormed src ps).map (delivery starttime src) ∧
            reports src ((machine starttime).emits ((machine starttime).step s p).1 ps) = [] := by
  constructor
  · intro pre p hwell hfresh
    have hle : nextNumber (numbers src pre) ≤ p.number :=
      (Nat.mod_le _ _).trans (lastPlusOne_le hfresh)
    rw [deliveries_calls starttime pre hwell, if_neg (by omega)]
  · intro s p ps hwell hlen hburst
    rw [numbers_cons_of_wellFormed ps hwell] at hburst
    exact emits_consecutive starttime src (nextSequence_step starttime s hwell) hlen hburst

/-- A number above two that were out of order, and a burst across the wrap that finds the
counter at 7. -/
theorem fresh_data_delivered_wrap :
    deliveries .JGPS (calls ⟨0, 0⟩
        [datagram JGPS_PORT [0, 0, 0, 5], datagram JGPS_PORT [0, 0, 0, 2]]
        (datagram JGPS_PORT [0, 0, 0, 9])) =
      [delivery ⟨0, 0⟩ .JGPS (datagram JGPS_PORT [0, 0, 0, 9])] ∧
    deliveries .JGPS ((machine ⟨0, 0⟩).emits
        ((machine ⟨0, 0⟩).step ⟨fun _ => 7⟩ (datagram JGPS_PORT [255, 255, 255, 255])).1
        [datagram JGPS_PORT [0, 0, 0, 0], datagram JGPS_PORT [0, 0, 0, 1]]) =
      [delivery ⟨0, 0⟩ .JGPS (datagram JGPS_PORT [0, 0, 0, 0]),
        delivery ⟨0, 0⟩ .JGPS (datagram JGPS_PORT [0, 0, 0, 1])] :=
  ⟨(fresh_data_delivered ⟨0, 0⟩ .JGPS).1 _ _ (by decide) (by decide),
    ((fresh_data_delivered ⟨0, 0⟩ .JGPS).2 _ _ _ (by decide)
      (by unfold WrongLength; decide) (by decide)).1⟩

end Ethmux
end FlightComputer
