import FlightComputer.Gps
import FlightComputer.Utils.Scanner

/-!
# Framing of the GPS stream

`scanner` is the loop of `send_venus_messages` as a resumable scanner: it moves one byte at a
time over what is not an A0, and a decision to move on never depends on bytes that have not
arrived. The loop finds the same frames and leaves the same bytes (`scan_eq_venusLoop`), so
the general facts on feeding a scanner in pieces are facts about `cots_raw_in`, as long as
no overrun empties the buffer. What the loop leaves is short enough for that
(`length_venusLoop_le`).
-/

namespace FlightComputer
namespace Gps

/-! ## The tests on one frame -/

/-- What an accepted frame passed. -/
theorem checkPacket_accept {frame : Bytes} {L packetLen : UInt16}
    (h : checkPacket frame L = .accept packetLen) :
    packetLen = L ∧ L.toNat ≤ 256 ∧ 7 + L.toNat ≤ frame.length := by
  unfold checkPacket at h
  split_ifs at h with hlong hshort
  cases h
  simp only [sizeofBuf] at hlong
  exact ⟨rfl, by omega, by omega⟩

theorem checkFrame_accept {frame : Bytes} {packetLen : UInt16}
    (h : checkFrame frame = .accept packetLen) :
    packetLen.toNat ≤ 256 ∧ 7 + packetLen.toNat ≤ frame.length := by
  unfold checkFrame at h
  split_ifs at h
  obtain ⟨rfl, hle⟩ := checkPacket_accept h
  exact hle

/-- The loop never waits in front of 263 bytes. -/
theorem length_le_of_wait {frame : Bytes} (h : checkFrame frame = .wait) :
    frame.length ≤ 262 := by
  by_cases hshort : frame.length < 7
  · omega
  · rw [checkFrame, dif_neg hshort] at h
    unfold checkPacket at h
    split_ifs at h with hsync hlong hbody
    rw [sizeofBuf] at hlong
    omega

theorem checkPacket_append {frame : Bytes} {L : UInt16} (more : Bytes)
    (h : checkPacket frame L ≠ .wait) : checkPacket (frame ++ more) L = checkPacket frame L := by
  unfold checkPacket at h ⊢
  by_cases hlong : L.toNat > sizeofBuf / 2
  · rw [if_pos hlong, if_pos hlong]
  · rw [if_neg hlong] at h
    rw [if_neg hlong, if_neg hlong]
    by_cases hshort : frame.length < 7 + L.toNat
    · rw [dif_pos hshort] at h
      exact absurd rfl h
    · -- every byte looked at lies in `frame`
      have hlen : ¬(frame ++ more).length < 7 + L.toNat := by
        rw [List.length_append]
        omega
      have hpacket : ((frame ++ more).drop 4).take L.toNat = (frame.drop 4).take L.toNat := by
        rw [List.drop_append_of_le_length (by omega), List.take_append_of_le_length]
        rw [List.length_drop]
        omega
      rw [dif_neg hlen, dif_neg hshort, hpacket,
        List.getElem_append_left (by omega : 4 + L.toNat < frame.length),
        List.getElem_append_left (by omega : 5 + L.toNat < frame.length),
        List.getElem_append_left (by omega : 6 + L.toNat < frame.length)]

/-- Unless it is to wait, the decision does not change when more data arrives. -/
theorem checkFrame_append {frame : Bytes} (more : Bytes) (h : checkFrame frame ≠ .wait) :
    checkFrame (frame ++ more) = checkFrame frame := by
  unfold checkFrame at h ⊢
  by_cases hshort : frame.length < 7
  · rw [dif_pos hshort] at h
    exact absurd rfl h
  · have hlen : ¬(frame ++ more).length < 7 := by
      rw [List.length_append]
      omega
    rw [dif_neg hshort] at h
    rw [dif_neg hlen, dif_neg hshort,
      List.getElem_append_left (by omega : 1 < frame.length),
      List.getElem_append_left (by omega : 2 < frame.length),
      List.getElem_append_left (by omega : 3 < frame.length)]
    by_cases hsync : frame[1] ≠ 0xA1
    · rw [if_pos hsync, if_pos hsync]
    · rw [if_neg hsync] at h
      rw [if_neg hsync, if_neg hsync, checkPacket_append more h]

/-! ## The loop as a scanner -/

/-- A frame found in the stream: its packet length and its packet. -/
abbrev Find := UInt16 × Bytes

/-- What the scanner decides: to skip what is not an A0, and else as the loop does. -/
def look : Bytes → Decision Find
  | [] => .wait
  | b :: tail =>
    if b ≠ 0xA0 then .advance 1 none
    else
      match checkFrame (b :: tail) with
      | .wait => .wait
      | .skip n => .advance n none
      | .accept packetLen =>
        .advance (packetLen.toNat + 7) (some (packetLen, Frame.packet ⟨b :: tail, packetLen⟩))

theorem look_of_ne {b : UInt8} (tail : Bytes) (h : b ≠ 0xA0) :
    look (b :: tail) = .advance 1 none := by
  rw [look, if_pos h]

theorem look_of_wait {tail : Bytes} (h : checkFrame (0xA0 :: tail) = .wait) :
    look (0xA0 :: tail) = .wait := by
  rw [look, if_neg (by simp), h]

theorem look_of_skip {tail : Bytes} {n : ℕ} (h : checkFrame (0xA0 :: tail) = .skip n) :
    look (0xA0 :: tail) = .advance n none := by
  rw [look, if_neg (by simp), h]

theorem look_of_accept {tail : Bytes} {packetLen : UInt16}
    (h : checkFrame (0xA0 :: tail) = .accept packetLen) :
    look (0xA0 :: tail) = .advance (packetLen.toNat + 7)
      (some (packetLen, Frame.packet ⟨0xA0 :: tail, packetLen⟩)) := by
  rw [look, if_neg (by simp), h]

/-- The scanner waits at the end of the bytes, or behind an A0. -/
theorem look_wait_cases {xs : Bytes} (h : look xs = .wait) :
    xs = [] ∨ ∃ tail, xs = 0xA0 :: tail ∧ checkFrame (0xA0 :: tail) = .wait := by
  rcases xs with _ | ⟨b, tail⟩
  · exact Or.inl rfl
  · by_cases hb : b = 0xA0
    · subst hb
      refine Or.inr ⟨tail, rfl, ?_⟩
      cases hcheck : checkFrame (0xA0 :: tail) with
      | wait => rfl
      | skip n => rw [look_of_skip hcheck] at h; cases h
      | accept packetLen => rw [look_of_accept hcheck] at h; cases h
    · rw [look_of_ne tail hb] at h
      cases h

/-- It goes on past another byte, or as the tests say of an A0. -/
theorem look_advance_cases {xs : Bytes} {n : ℕ} {found : Option Find}
    (h : look xs = .advance n found) :
    (∃ b tail, xs = b :: tail ∧ b ≠ 0xA0 ∧ n = 1 ∧ found = none) ∨
    (∃ tail, xs = 0xA0 :: tail ∧ checkFrame (0xA0 :: tail) = .skip n ∧ found = none) ∨
    ∃ tail packetLen, xs = 0xA0 :: tail ∧ checkFrame (0xA0 :: tail) = .accept packetLen ∧
      n = packetLen.toNat + 7 ∧
      found = some (packetLen, Frame.packet ⟨0xA0 :: tail, packetLen⟩) := by
  rcases xs with _ | ⟨b, tail⟩
  · cases h
  · by_cases hb : b = 0xA0
    · subst hb
      right
      cases hcheck : checkFrame (0xA0 :: tail) with
      | wait => rw [look_of_wait hcheck] at h; cases h
      | skip n =>
        rw [look_of_skip hcheck] at h
        cases h
        exact Or.inl ⟨tail, rfl, hcheck, rfl⟩
      | accept packetLen =>
        rw [look_of_accept hcheck] at h
        cases h
        exact Or.inr ⟨tail, packetLen, rfl, hcheck, rfl, rfl⟩
    · rw [look_of_ne tail hb] at h
      cases h
      exact Or.inl ⟨b, tail, rfl, hb, rfl, rfl⟩

theorem look_advance_le {xs : Bytes} {n : ℕ} {found : Option Find}
    (h : look xs = .advance n found) : 0 < n ∧ n ≤ xs.length := by
  obtain ⟨b, tail, rfl, -, rfl, -⟩ | ⟨tail, rfl, hcheck, -⟩ |
    ⟨tail, packetLen, rfl, hcheck, rfl, -⟩ := look_advance_cases h
  · rw [List.length_cons]
    omega
  · exact checkFrame_skip hcheck
  · have hlen := (checkFrame_accept hcheck).2
    omega

theorem look_resume {xs : Bytes} {n : ℕ} {found : Option Find} (more : Bytes)
    (h : look xs = .advance n found) : look (xs ++ more) = .advance n found := by
  obtain ⟨b, tail, rfl, hb, rfl, rfl⟩ | ⟨tail, rfl, hcheck, rfl⟩ |
    ⟨tail, packetLen, rfl, hcheck, rfl, rfl⟩ := look_advance_cases h
  · exact look_of_ne (tail ++ more) hb
  · exact look_of_skip ((checkFrame_append more (by simp [hcheck])).trans hcheck)
  · have happend : checkFrame (0xA0 :: (tail ++ more)) = .accept packetLen :=
      (checkFrame_append more (by simp [hcheck])).trans hcheck
    -- the packet lies in what has arrived
    have hpacket : Frame.packet ⟨0xA0 :: (tail ++ more), packetLen⟩
        = Frame.packet ⟨0xA0 :: tail, packetLen⟩ := by
      have hlen := (checkFrame_accept hcheck).2
      rw [List.length_cons] at hlen
      simp only [Frame.packet, List.drop_succ_cons]
      rw [List.drop_append_of_le_length (by omega), List.take_append_of_le_length]
      rw [List.length_drop]
      omega
    rw [List.cons_append, look_of_accept happend, hpacket]

/-- The loop of `send_venus_messages` as a resumable scanner. -/
def scanner : Scanner UInt8 Find where
  look := look
  advance_le := look_advance_le
  resume := look_resume

/-! ## The loop finds what the scanner finds -/

@[simp] theorem venusLoop_nil : venusLoop [] = ([], []) := by
  rw [venusLoop, if_pos rfl]

theorem venusLoop_of_ne {b : UInt8} (tail : Bytes) (h : b ≠ 0xA0) :
    venusLoop (b :: tail) = venusLoop tail := by
  rcases tail with _ | ⟨c, tail⟩
  · rw [venusLoop_nil, venusLoop, if_neg (by simp)]
    split
    · rfl
    · next hfound =>
      rw [memchr_cons_of_ne _ h] at hfound
      cases hfound
  · rw [venusLoop, if_neg (by simp), memchr_cons_of_ne _ h]
    conv_rhs => rw [venusLoop, if_neg (by simp)]

theorem venusLoop_sync (tail : Bytes) :
    venusLoop (0xA0 :: tail) =
      match checkFrame (0xA0 :: tail) with
      | .wait => ([], 0xA0 :: tail)
      | .skip n => venusLoop ((0xA0 :: tail).drop n)
      | .accept packetLen =>
        (⟨0xA0 :: tail, packetLen⟩ :: (venusLoop ((0xA0 :: tail).drop (packetLen.toNat + 7))).1,
          (venusLoop ((0xA0 :: tail).drop (packetLen.toNat + 7))).2) := by
  rw [venusLoop, if_neg (by simp), memchr_cons_self]
  dsimp only
  split <;> simp_all

/-- The loop starts at the first A0. -/
theorem venusLoop_of_memchr (xs : Bytes) :
    venusLoop xs = match memchr xs 0xA0 with
      | none => ([], [])
      | some found => venusLoop found := by
  induction xs with
  | nil => rw [venusLoop_nil, memchr_nil]
  | cons b tail ih =>
    by_cases hb : b = 0xA0
    · rw [hb, memchr_cons_self]
    · rw [venusLoop_of_ne tail hb, memchr_cons_of_ne tail hb, ih]

/-- The position of a frame in the stream and what was found there, when `cur` is at
position `stop` of the stream. -/
def Frame.find (stop : ℕ) (f : Frame) : ℕ × Find :=
  (stop - f.mem.length, f.packetLen, f.packet)

/-- **The loop is the scanner.** It accepts what the scanner finds, and leaves the same. -/
theorem scan_eq_venusLoop (p : ℕ) (xs : Bytes) :
    scanner.scan p xs =
      ((venusLoop xs).1.map (Frame.find (p + xs.length)), (venusLoop xs).2) := by
  induction p, xs using scanner.scan_induction with
  | wait p xs h =>
    rw [scanner.scan_of_wait h]
    rcases look_wait_cases h with rfl | ⟨tail, rfl, hcheck⟩
    · rw [venusLoop_nil, List.map_nil]
    · rw [venusLoop_sync, hcheck, List.map_nil]
  | advance p xs n found h ih =>
    have hn := scanner.advance_le h
    -- the end of the buffer stays where it is
    have hstop : p + n + (xs.drop n).length = p + xs.length := by
      rw [List.length_drop]
      omega
    rw [scanner.scan_of_advance h, ih, hstop]
    obtain ⟨b, tail, rfl, hb, rfl, rfl⟩ | ⟨tail, rfl, hcheck, rfl⟩ |
      ⟨tail, packetLen, rfl, hcheck, rfl, rfl⟩ := look_advance_cases h
    · rw [venusLoop_of_ne tail hb]
      rfl
    · rw [venusLoop_sync, hcheck]
      rfl
    · rw [venusLoop_sync, hcheck]
      simp only [Option.toList_some, List.map_cons, List.map_nil, List.cons_append,
        List.nil_append, Frame.find, Nat.add_sub_cancel]

/-- Every frame transmitted has passed the tests. -/
theorem checkFrame_of_mem {xs : Bytes} {f : Frame} (h : f ∈ (venusLoop xs).1) :
    checkFrame f.mem = .accept f.packetLen := by
  fun_induction venusLoop xs with
  | case1 => cases h
  | case2 start hne hfound => cases h
  | case3 start hne frame hfound hcheck => cases h
  | case4 start hne frame hfound n hcheck ih => exact ih h
  | case5 start hne frame hfound packetLen hcheck rest ih =>
    rcases List.mem_cons.mp h with heq | hmem
    · rw [heq]
      exact hcheck
    · exact ih hmem

/-- The length passed on for a frame is that of its data, unless the packet is empty. -/
theorem toNat_dataLength (timestamp : Timestamp) {f : Frame} (hne : f.packetLen ≠ 0) :
    (gpsDataOut timestamp f).dataLength.toNat = f.packetLen.toNat - 1 := by
  have hpos : f.packetLen.toNat ≠ 0 := fun h => hne (UInt16.toNat_inj.mp h)
  have hle : (1 : UInt16) ≤ f.packetLen := by
    rw [UInt16.le_iff_toNat_le]
    exact Nat.one_le_iff_ne_zero.mpr hpos
  exact UInt16.toNat_sub_of_le _ _ hle

theorem dataLength_of_empty (timestamp : Timestamp) {f : Frame} (h : f.packetLen = 0) :
    (gpsDataOut timestamp f).dataLength.toNat = 65535 := by
  unfold gpsDataOut
  rw [h]
  rfl

/-! ## What the loop leaves -/

theorem length_le_of_look {xs : Bytes} (h : look xs = .wait) : xs.length ≤ 262 := by
  rcases look_wait_cases h with rfl | ⟨tail, rfl, hcheck⟩
  · exact Nat.zero_le _
  · exact length_le_of_wait hcheck

/-- The bytes that wait for more data are fewer than the longest frame. -/
theorem length_venusLoop_le (xs : Bytes) : (venusLoop xs).2.length ≤ 262 := by
  have hleft := scanner.look_leftover 0 xs
  rw [scan_eq_venusLoop] at hleft
  rcases hleft with hnil | hwait
  · rw [hnil, List.length_nil]
    omega
  · exact length_le_of_look hwait

/-- They are a suffix of what there was, and start with an A0. -/
theorem venusLoop_suffix (xs : Bytes) : (venusLoop xs).2 <:+ xs := by
  have hsuffix := scanner.scan_suffix 0 xs
  rwa [scan_eq_venusLoop] at hsuffix

theorem head_venusLoop (xs : Bytes) :
    (venusLoop xs).2 = [] ∨ (venusLoop xs).2.head? = some 0xA0 := by
  have hleft := scanner.look_leftover 0 xs
  rw [scan_eq_venusLoop] at hleft
  rcases hleft with hnil | hwait
  · exact Or.inl hnil
  · rcases look_wait_cases hwait with hnil | ⟨tail, hcons, -⟩
    · exact Or.inl hnil
    · right
      rw [hcons, List.head?_cons]

theorem length_run_le (ms : List Message) : (machine.run ms).length ≤ 262 := by
  induction ms using List.reverseRecOn with
  | nil => simp [machine]
  | append_singleton ms m =>
    rw [machine.run_snoc]
    exact length_venusLoop_le _

theorem not_overrun {s : State} {m : Message} (hs : s.length ≤ 262)
    (hm : m.dataLength.toNat ≤ 249) : ¬overrun s m := by
  unfold overrun sizeofBuf
  omega

/-- Chunks of at most 249 bytes never make `cots_raw_in` drop what it has buffered. -/
theorem along_not_overrun {ms : List Message} (hms : ∀ m ∈ ms, m.dataLength.toNat ≤ 249) :
    machine.Along (fun s m => ¬overrun s m) machine.init ms := by
  rw [Machine.along_iff]
  intro pre m post hsplit
  have hm : m ∈ ms := by simp [hsplit]
  exact not_overrun (length_run_le pre) (hms m hm)

/-! ## Bounds -/

/-- The `memcpy` of `cots_raw_in` ends within `buf`, and so does what is kept. -/
def InBuffer (s : State) (m : Message) : Prop :=
  (beforeCopy s m).length + m.dataLength.toNat ≤ sizeofBuf ∧
    (cotsRawIn m s).1.length ≤ sizeofBuf

/-- Emptying the buffer makes room for 512 bytes, and for no more. -/
theorem inBuffer_iff (s : State) (m : Message) :
    InBuffer s m ↔ m.dataLength.toNat ≤ sizeofBuf := by
  have hleft : (cotsRawIn m s).1.length ≤ 262 := length_venusLoop_le _
  unfold InBuffer beforeCopy
  by_cases hover : overrun s m
  · rw [if_pos hover, List.length_nil]
    unfold sizeofBuf
    omega
  · rw [if_neg hover]
    unfold overrun at hover
    unfold sizeofBuf at hover ⊢
    omega

theorem along_inBuffer_iff (ms : List Message) :
    machine.Along InBuffer machine.init ms ↔ ∀ m ∈ ms, m.dataLength.toNat ≤ sizeofBuf := by
  rw [Machine.along_iff]
  constructor
  · intro h m hm
    obtain ⟨pre, post, hsplit⟩ := List.append_of_mem hm
    exact (inBuffer_iff _ m).mp (h pre m post hsplit)
  · intro h pre m post hsplit
    exact (inBuffer_iff _ m).mpr (h m (by simp [hsplit]))

/-! ## Runs -/

/-- The bytes received over a run. -/
def stream (ms : List Message) : Bytes := (ms.map Message.payload).flatten

/-- `machine` with a count of the bytes received, which gives each frame its position in the
stream. -/
def positioned : Machine (ℕ × State) Message (ℕ × Find) where
  init := (0, [])
  step := fun (received, s) m =>
    let r := cotsRawIn m s
    let received := received + m.dataLength.toNat
    ((received, r.1), r.2.map fun o => o.frame.find received)

theorem positioned_run (ms : List Message) : (positioned.run ms).2 = machine.run ms := by
  induction ms using List.reverseRecOn with
  | nil => rfl
  | append_singleton ms m ih =>
    rw [positioned.run_snoc, machine.run_snoc, ← ih]
    rfl

theorem positioned_outputs (ms : List Message) :
    (positioned.outputs ms).map (fun find => find.2.2) =
      (machine.outputs ms).map fun o => o.frame.packet := by
  induction ms using List.reverseRecOn with
  | nil => rfl
  | append_singleton ms m ih =>
    have hstep : ∀ s, (positioned.step s m).2.map (fun find => find.2.2) =
        (machine.step s.2 m).2.map fun o => o.frame.packet := by
      intro s
      show ((cotsRawIn m s.2).2.map _).map _ = (cotsRawIn m s.2).2.map _
      rw [List.map_map]
      rfl
    rw [positioned.outputs_snoc, machine.outputs_snoc, List.map_append, List.map_append, ih, hstep,
      positioned_run]

/-- `cots_raw_in`, as long as no overrun empties the buffer, feeds the scanner. -/
theorem positioned_eq_feed {ms : List Message} (hms : ∀ m ∈ ms, m.dataLength.toNat ≤ 249) :
    positioned.outputs ms = scanner.feed.outputs (ms.map Message.payload) ∧
      scanner.feed.run (ms.map Message.payload) =
        ((positioned.run ms).1 - (positioned.run ms).2.length, (positioned.run ms).2) ∧
      (positioned.run ms).2.length ≤ (positioned.run ms).1 := by
  induction ms using List.reverseRecOn with
  | nil => exact ⟨rfl, rfl, le_refl _⟩
  -- one more chunk: it is appended to what is kept, as the feed does
  | append_singleton ms m ih =>
    obtain ⟨hout, hrun, hle⟩ := ih fun m' hm' => hms m' (by simp [hm'])
    have hbefore : beforeCopy (positioned.run ms).2 m = (positioned.run ms).2 := by
      have hs := length_run_le ms
      rw [← positioned_run] at hs
      rw [beforeCopy, if_neg (not_overrun hs (hms m (by simp)))]
    set received := (positioned.run ms).1
    set kept := (positioned.run ms).2
    have hstep : positioned.step (positioned.run ms) m =
        ((received + m.dataLength.toNat, (venusLoop (kept ++ m.payload)).2),
          (venusLoop (kept ++ m.payload)).1.map
            (Frame.find (received + m.dataLength.toNat))) := by
      show ((_, (cotsRawIn m kept).1), (cotsRawIn m kept).2.map _) = _
      rw [cotsRawIn, sendVenusMessages, hbefore, List.map_map]
      rfl
    have hpos : received - kept.length + (kept ++ m.payload).length
        = received + m.dataLength.toNat := by
      rw [List.length_append, Message.length_payload]
      omega
    have hscan := scan_eq_venusLoop (received - kept.length) (kept ++ m.payload)
    rw [hpos] at hscan
    have hsuffix := (scanner.scan_suffix (received - kept.length) (kept ++ m.payload)).length_le
    simp only [hscan, List.length_append, Message.length_payload] at hsuffix
    -- both sides now take the same scan of `kept ++ m.payload`
    rw [positioned.outputs_snoc, positioned.run_snoc, List.map_append, List.map_singleton,
      scanner.feed.outputs_snoc, scanner.feed.run_snoc, hrun, hout, hstep]
    simp only [Scanner.feed, hscan, true_and, Prod.mk.injEq, and_true, List.length_append,
      Message.length_payload]
    omega

/-- One pass of the loop over the whole stream does the same. -/
theorem run_eq_venusLoop {ms : List Message} (hms : ∀ m ∈ ms, m.dataLength.toNat ≤ 249) :
    positioned.outputs ms = (venusLoop (stream ms)).1.map (Frame.find (stream ms).length) ∧
      machine.run ms = (venusLoop (stream ms)).2 := by
  obtain ⟨hout, hrun, -⟩ := positioned_eq_feed hms
  have hscan := scan_eq_venusLoop 0 (stream ms)
  rw [Nat.zero_add] at hscan
  have hleft := congrArg Prod.snd hrun
  rw [scanner.run_feed] at hleft
  rw [hout, scanner.outputs_feed, ← positioned_run, ← hleft]
  change (scanner.scan 0 (stream ms)).1 = _ ∧ (scanner.scan 0 (stream ms)).2 = _
  rw [hscan]
  exact ⟨rfl, rfl⟩

/-- **The framer is independent of how the network cuts the stream.** Cut into chunks of at
most 249 bytes, whatever the cut, no overrun drops anything, the frames accepted and their
positions are those of one pass of the loop over the whole stream, and so are the bytes left
in the buffer. -/
theorem framing_independent_of_cut (ms ms' : List Message)
    (hms : ∀ m ∈ ms, m.dataLength.toNat ≤ 249) (hms' : ∀ m ∈ ms', m.dataLength.toNat ≤ 249)
    (hstream : stream ms = stream ms') :
    machine.Along (fun s m => ¬overrun s m) machine.init ms ∧
      machine.Along (fun s m => ¬overrun s m) machine.init ms' ∧
      positioned.outputs ms = positioned.outputs ms' ∧
      positioned.outputs ms =
        (venusLoop (stream ms)).1.map (Frame.find (stream ms).length) ∧
      machine.run ms = machine.run ms' ∧
      machine.run ms = (venusLoop (stream ms)).2 := by
  obtain ⟨hout, hrun⟩ := run_eq_venusLoop hms
  obtain ⟨hout', hrun'⟩ := run_eq_venusLoop hms'
  rw [← hstream] at hout' hrun'
  exact ⟨along_not_overrun hms, along_not_overrun hms', hout.trans hout'.symm, hout,
    hrun.trans hrun'.symm, hrun⟩

/-- Some bytes of the stream, as the network passes them on. -/
def chunk (bytes : Bytes) : Message where
  ID := messageID 'V' '8' 'B' 'S'
  timestamp := Vector.replicate 6 0
  dataLength := .ofNat bytes.length
  data := bytes

theorem stream_chunk (bytes : Bytes) (h : bytes.length < 2 ^ 16) :
    stream [chunk bytes] = bytes := by
  have hlen : (chunk bytes).dataLength.toNat = bytes.length := by
    show (UInt16.ofNat bytes.length).toNat = _
    rw [UInt16.toNat_ofNat']
    exact Nat.mod_eq_of_lt h
  have hpayload : (chunk bytes).payload = bytes := by
    rw [Message.payload, hlen]
    exact memread_length bytes
  rw [stream, List.map_singleton, List.flatten_singleton, hpayload]

/-- A frame cut inside its length field. -/
theorem framing_independent_of_cut_split :
    positioned.outputs [chunk [0xA0, 0xA1, 0], chunk [1, 8, 8, 0x0D, 0x0A]] =
      positioned.outputs [chunk [0xA0, 0xA1, 0, 1, 8, 8, 0x0D, 0x0A]] :=
  (framing_independent_of_cut [chunk [0xA0, 0xA1, 0], chunk [1, 8, 8, 0x0D, 0x0A]]
    [chunk [0xA0, 0xA1, 0, 1, 8, 8, 0x0D, 0x0A]] (by decide) (by decide) (by decide)).2.2.1

example : positioned.outputs [chunk [0xA0, 0xA1, 0], chunk [1, 8, 8, 0x0D, 0x0A]] =
    [(0, 1, [8])] := by decide +kernel

end Gps
end FlightComputer
