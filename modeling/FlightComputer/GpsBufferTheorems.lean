import FlightComputer.GpsBuffer
import FlightComputer.GpsTheorems

/-!
# The array holds what the model of the stream says

Read through `used`, the bytes before `cur`, the functions on the array are those of `Gps`:
every read the loop makes has a value (`checkFrame_eq`, `memchr_eq`), each pass comes nearer
to `cur`, and the frames accepted and the bytes kept are those of `venusLoop`.
-/

namespace FlightComputer
namespace Gps
namespace Buffer

variable {b : Buffer}

/-! ## Reads -/

@[simp] theorem length_used (b : Buffer) : b.used.length = b.cur := by
  rw [used, List.length_take, b.length_buf, min_eq_left b.cur_le]

theorem read_eq (b : Buffer) (i : ℕ) : b.read i = b.used[i]? := by
  rw [read, used, List.getElem?_take]

theorem read_of_drop {frame i : ℕ} {x : UInt8} (h : (b.used.drop frame)[i]? = some x) :
    b.read (frame + i) = some x := by
  rwa [List.getElem?_drop, ← read_eq] at h

/-- A read behind `frame` and before `cur` has a value. -/
theorem read_drop (b : Buffer) (frame : ℕ) {i : ℕ} (h : i < (b.used.drop frame).length) :
    b.read (frame + i) = some (b.used.drop frame)[i] :=
  read_of_drop (List.getElem?_eq_getElem h)

theorem drop_used_of_lt (b : Buffer) {start : ℕ} (h : start < b.cur) :
    ∃ x, b.read start = some x ∧ b.used.drop start = x :: b.used.drop (start + 1) := by
  have hlt : start < b.used.length := by rwa [length_used]
  exact ⟨b.used[start], by rw [read_eq, List.getElem?_eq_getElem hlt],
    List.drop_eq_getElem_cons hlt⟩

theorem memchr_eq (b : Buffer) (c : UInt8) {start n : ℕ} (h : start + n = b.cur) :
    b.memchr c start n =
      some ((FlightComputer.memchr (b.used.drop start) c).map fun found =>
        b.cur - found.length) := by
  induction n generalizing start with
  | zero =>
    rw [memchr, List.drop_of_length_le (by rw [length_used]; omega), memchr_nil]
    rfl
  | succ n ih =>
    obtain ⟨x, hread, hdrop⟩ := drop_used_of_lt b (by omega : start < b.cur)
    rw [memchr, hread, hdrop]
    by_cases hx : x = c
    · subst hx
      have hlen : (x :: b.used.drop (start + 1)).length = b.cur - start := by
        rw [← hdrop, List.length_drop, length_used]
      rw [memchr_cons_self, Option.map_some, hlen, show b.cur - (b.cur - start) = start by omega]
      simp
    · rw [memchr_cons_of_ne _ hx, ← ih (by omega)]
      simp [hx]

theorem chexxor_eq (b : Buffer) (ret : UInt8) {data len : ℕ} (h : data + len ≤ b.cur) :
    b.chexxor ret data len =
      some (((b.used.drop data).take len).foldl (fun ret byte => ret ^^^ byte) ret) := by
  induction len generalizing ret data with
  | zero => rfl
  | succ len ih =>
    obtain ⟨x, hread, hdrop⟩ := drop_used_of_lt b (by omega : data < b.cur)
    rw [chexxor, hread, hdrop, List.take_succ_cons, List.foldl_cons]
    exact ih _ (by omega)

/-! ## The tests on one frame -/

theorem checkPacket_eq {frame : ℕ} (hlen : frame + 7 ≤ b.cur) (packetLen : UInt16) :
    b.checkPacket frame packetLen = some (Gps.checkPacket (b.used.drop frame) packetLen) := by
  have hrest : (b.used.drop frame).length = b.cur - frame := by
    rw [List.length_drop, length_used]
  have hid := read_drop b frame (i := 4) (by omega)
  unfold checkPacket Gps.checkPacket
  by_cases hlong : packetLen.toNat > sizeofBuf / 2
  · rw [if_pos hlong, if_pos hlong, hid]
    rfl
  · rw [if_neg hlong, if_neg hlong]
    by_cases hshort : (b.used.drop frame).length < 7 + packetLen.toNat
    · rw [dif_pos hshort, if_pos (by omega)]
    · have hcr := read_drop b frame (i := 5 + packetLen.toNat) (by omega)
      have hlf := read_drop b frame (i := 6 + packetLen.toNat) (by omega)
      have hsum := read_drop b frame (i := 4 + packetLen.toNat) (by omega)
      have hxor := chexxor_eq b 0 (by omega : frame + 4 + packetLen.toNat ≤ b.cur)
      rw [← add_assoc] at hcr hlf hsum
      rw [dif_neg hshort, if_neg (by omega), hcr, hlf, hsum, hid, hxor, ← List.drop_drop]
      dsimp only [Option.bind_eq_bind, Option.bind_some]
      by_cases htrailer : (b.used.drop frame)[5 + packetLen.toNat] ≠ 0x0D ∨
          (b.used.drop frame)[6 + packetLen.toNat] ≠ 0x0A
      · rw [if_pos htrailer, if_pos htrailer]
        rfl
      · rw [if_neg htrailer, if_neg htrailer]
        by_cases hbad : Gps.chexxor (((b.used.drop frame).drop 4).take packetLen.toNat) ≠
            (b.used.drop frame)[4 + packetLen.toNat]
        · rw [if_pos hbad, ← Gps.chexxor, if_pos hbad]
          rfl
        · rw [if_neg hbad, ← Gps.chexxor, if_neg hbad]
          rfl

/-- **The tests stay in the buffer.** From a byte before `cur` on, every read of the tests has
a value, and they come out as on the bytes. -/
theorem checkFrame_eq {frame : ℕ} (h : frame ≤ b.cur) :
    b.checkFrame frame = some (Gps.checkFrame (b.used.drop frame)) := by
  have hrest : (b.used.drop frame).length = b.cur - frame := by
    rw [List.length_drop, length_used]
  unfold checkFrame Gps.checkFrame
  by_cases hshort : (b.used.drop frame).length < 7
  · rw [dif_pos hshort, if_pos (by omega)]
  · have hsync := read_drop b frame (i := 1) (by omega)
    have hhigh := read_drop b frame (i := 2) (by omega)
    have hlow := read_drop b frame (i := 3) (by omega)
    rw [dif_neg hshort, if_neg (by omega), hsync, hhigh, hlow]
    dsimp only [Option.bind_eq_bind, Option.bind_some]
    by_cases hne : (b.used.drop frame)[1] ≠ 0xA1
    · rw [if_pos hne, if_pos hne]
      rfl
    · rw [if_neg hne, if_neg hne, checkPacket_eq (by omega)]

/-! ## One pass -/

/-- The frames the model of the stream accepts for what was transmitted. -/
def frames (b : Buffer) (sent : List (ℕ × UInt16)) : List Frame :=
  sent.map fun f => ⟨b.used.drop f.1, f.2⟩

/-- In front of a pass: the frames transmitted and those still to come are all, and what will
be left is what is left. -/
structure ScanInv (b : Buffer) (s : Scan) : Prop where
  frame_le : s.frame ≤ b.cur
  sent : b.frames s.sent ++ (venusLoop (b.used.drop s.frame)).1 = (venusLoop b.used).1
  left : (venusLoop (b.used.drop s.frame)).2 = (venusLoop b.used).2

/-- Where the loop is left: all frames are transmitted, and the bytes from `frame` on are what
is left. -/
structure ExitInv (b : Buffer) (exit : Exit) : Prop where
  sent : b.frames exit.sent = (venusLoop b.used).1
  frame_le : ∀ frame ∈ exit.frame, frame ≤ b.cur
  left : (exit.frame.elim [] fun frame => b.used.drop frame) = (venusLoop b.used).2

theorem scanInv_start (b : Buffer) : b.ScanInv start := by
  refine ⟨Nat.zero_le _, ?_, ?_⟩
  · rw [start, frames, List.map_nil, List.drop_zero, List.nil_append]
  · rw [start, List.drop_zero]

/-- What `memchr` finds is at its offset. -/
theorem memchr_found {start : ℕ} (h : start ≤ b.cur) {c : UInt8} {found : Bytes}
    (hmem : FlightComputer.memchr (b.used.drop start) c = some found) :
    ∃ first, b.memchr c start (b.cur - start) = some (some first) ∧ start ≤ first ∧
      first ≤ b.cur ∧ b.used.drop first = found := by
  have hsuffix := (memchr_eq_some hmem).1
  have hlen := hsuffix.length_le
  rw [List.length_drop, length_used] at hlen
  refine ⟨b.cur - found.length, ?_, by omega, Nat.sub_le _ _, ?_⟩
  · rw [memchr_eq b c (Nat.add_sub_cancel' h), hmem, Option.map_some]
  · have hdrop := hsuffix.trans (List.drop_suffix start b.used)
    rw [← length_used, ← List.suffix_iff_eq_drop.mp hdrop]

theorem pass_of_found {s : Scan} {frame : ℕ} (hlt : s.frame < b.cur)
    (hfind : b.memchr 0xA0 s.frame (b.cur - s.frame) = some (some frame)) (hle : frame ≤ b.cur) :
    b.venus.pass s = some (match Gps.checkFrame (b.used.drop frame) with
      | .wait => .stop ⟨some frame, s.sent⟩
      | .skip n => .next ⟨frame + n, s.sent⟩
      | .accept packetLen =>
        .next ⟨frame + (packetLen.toNat + 7), s.sent ++ [(frame, packetLen)]⟩) := by
  have hcheck := checkFrame_eq hle
  unfold venus
  dsimp only
  rw [if_pos hlt, hfind]
  dsimp only [Option.bind_eq_bind, Option.bind_some]
  rw [hcheck]
  cases Gps.checkFrame (b.used.drop frame) <;> rfl

/-! ### What the invariant becomes -/

section ScanInv

variable {s : Scan} {first : ℕ} {tail : Bytes}

/-- At the next A0 it still holds. -/
theorem ScanInv.found (hinv : b.ScanInv s) (hfirst : first ≤ b.cur)
    (hmem : FlightComputer.memchr (b.used.drop s.frame) 0xA0 = some (b.used.drop first)) :
    b.ScanInv ⟨first, s.sent⟩ := by
  have hloop := venusLoop_of_memchr (b.used.drop s.frame)
  rw [hmem] at hloop
  dsimp only at hloop
  exact ⟨hfirst, hloop ▸ hinv.sent, hloop ▸ hinv.left⟩

theorem ScanInv.skip {n : ℕ} (hinv : b.ScanInv s) (hdrop : b.used.drop s.frame = 0xA0 :: tail)
    (hcheck : Gps.checkFrame (0xA0 :: tail) = .skip n) :
    b.ScanInv ⟨s.frame + n, s.sent⟩ ∧ 0 < n := by
  obtain ⟨hle, hsent, hleft⟩ := hinv
  obtain ⟨hpos, hn⟩ := checkFrame_skip hcheck
  rw [hdrop, venusLoop_sync, hcheck] at hsent hleft
  dsimp only at hsent hleft
  rw [← hdrop, List.drop_drop] at hsent hleft
  rw [← hdrop, List.length_drop, length_used] at hn
  refine ⟨⟨?_, hsent, hleft⟩, hpos⟩
  dsimp only
  omega

theorem ScanInv.accept {packetLen : UInt16} (hinv : b.ScanInv s)
    (hdrop : b.used.drop s.frame = 0xA0 :: tail)
    (hcheck : Gps.checkFrame (0xA0 :: tail) = .accept packetLen) :
    b.ScanInv ⟨s.frame + (packetLen.toNat + 7), s.sent ++ [(s.frame, packetLen)]⟩ := by
  obtain ⟨hle, hsent, hleft⟩ := hinv
  have hlen := (checkFrame_accept hcheck).2
  rw [hdrop, venusLoop_sync, hcheck] at hsent hleft
  dsimp only at hsent hleft
  rw [← hdrop, List.drop_drop] at hsent hleft
  rw [← hdrop, List.length_drop, length_used] at hlen
  refine ⟨?_, ?_, hleft⟩
  · dsimp only
    omega
  · rw [← hsent, frames, List.map_append, List.append_assoc]
    rfl

/-- Where the model keeps all that is left, so does the loop. -/
theorem ScanInv.exit (hinv : b.ScanInv s)
    (hloop : venusLoop (b.used.drop s.frame) = ([], b.used.drop s.frame)) :
    b.ExitInv ⟨some s.frame, s.sent⟩ := by
  obtain ⟨hle, hsent, hleft⟩ := hinv
  rw [hloop] at hsent hleft
  refine ⟨?_, ?_, hleft⟩
  · rwa [List.append_nil] at hsent
  · rintro frame ⟨⟩
    exact hle

theorem ScanInv.wait (hinv : b.ScanInv s) (hdrop : b.used.drop s.frame = 0xA0 :: tail)
    (hcheck : Gps.checkFrame (0xA0 :: tail) = .wait) : b.ExitInv ⟨some s.frame, s.sent⟩ := by
  apply hinv.exit
  rw [hdrop, venusLoop_sync, hcheck]

/-- No A0 follows: nothing is kept. -/
theorem ScanInv.notFound (hinv : b.ScanInv s)
    (hmem : FlightComputer.memchr (b.used.drop s.frame) 0xA0 = none) :
    b.ExitInv ⟨none, s.sent⟩ := by
  obtain ⟨hle, hsent, hleft⟩ := hinv
  rw [venusLoop_of_memchr, hmem] at hsent hleft
  refine ⟨?_, ?_, hleft⟩
  · rwa [List.append_nil] at hsent
  · rintro frame ⟨⟩

/-- `frame` has come to `cur`. -/
theorem ScanInv.atEnd (hinv : b.ScanInv s) (hend : ¬s.frame < b.cur) :
    b.ExitInv ⟨some s.frame, s.sent⟩ := by
  have hle := hinv.frame_le
  have hnil : b.used.drop s.frame = [] := by
    rw [List.drop_eq_nil_iff, length_used]
    omega
  apply hinv.exit
  rw [hnil, venusLoop_nil]

end ScanInv

/-- **One pass.** Before `cur` it is defined and comes nearer to it, and the frames and the bytes
left are those of the model. -/
theorem venus_sound (b : Buffer) :
    b.venus.Sound b.ScanInv (fun s => b.cur - s.frame) b.ExitInv := by
  intro s hinv
  by_cases hlt : s.frame < b.cur
  · cases hmem : FlightComputer.memchr (b.used.drop s.frame) 0xA0 with
    | none =>
      have hfind := memchr_eq b 0xA0 (Nat.add_sub_cancel' hinv.frame_le)
      rw [hmem] at hfind
      refine Or.inr ⟨⟨none, s.sent⟩, ?_, hinv.notFound hmem⟩
      unfold venus
      dsimp only
      rw [if_pos hlt, hfind]
      rfl
    | some found =>
      obtain ⟨-, tail, rfl⟩ := memchr_eq_some hmem
      obtain ⟨first, hfind, hge, hfirst, hdrop⟩ := memchr_found hinv.frame_le hmem
      have hfound := hinv.found hfirst (by rw [hmem, hdrop])
      have hpass := pass_of_found hlt hfind hfirst
      rw [hdrop] at hpass
      cases hcheck : Gps.checkFrame (0xA0 :: tail) with
      | wait =>
        rw [hcheck] at hpass
        exact Or.inr ⟨_, hpass, hfound.wait hdrop hcheck⟩
      | skip n =>
        obtain ⟨hnext, hpos⟩ := hfound.skip hdrop hcheck
        rw [hcheck] at hpass
        refine Or.inl ⟨_, hpass, hnext, ?_⟩
        dsimp only
        omega
      | accept packetLen =>
        rw [hcheck] at hpass
        refine Or.inl ⟨_, hpass, hfound.accept hdrop hcheck, ?_⟩
        dsimp only
        omega
  · refine Or.inr ⟨⟨some s.frame, s.sent⟩, ?_, hinv.atEnd hlt⟩
    rw [venus]
    exact if_neg hlt

/-! ## The whole loop -/

theorem used_drop (b : Buffer) : b.drop.used = [] := List.take_zero

theorem used_move (b : Buffer) (frame : ℕ) : (b.move frame).used = b.used.drop frame := by
  have hlen : b.cur - frame = 0 + (b.used.drop frame).length := by
    rw [List.length_drop, length_used, Nat.zero_add]
  show (memwrite b.buf 0 (b.used.drop frame)).take (b.cur - frame) = _
  rw [hlen, take_memwrite (Nat.zero_le _), List.take_zero, List.nil_append]

/-- What is done behind the loop leaves the bytes from `frame` on. -/
theorem used_leave {frame : Option ℕ} (h : ∀ f ∈ frame, f ≤ b.cur) :
    ∃ b', b.leave frame = some b' ∧ b'.used = frame.elim [] fun f => b.used.drop f := by
  cases frame with
  | none => exact ⟨b.drop, rfl, b.used_drop⟩
  | some f => exact ⟨b.move f, if_pos (h f rfl), b.used_move f⟩

theorem exists_sendVenusMessages (b : Buffer) : ∃ b' sent, b.SendVenusMessages b' sent := by
  obtain ⟨⟨⟨frame, sent⟩, hreturns⟩, hexit, -⟩ := b.venus_sound.total b.scanInv_start
  obtain ⟨b', hleave, -⟩ := used_leave (hexit _ hreturns).frame_le
  exact ⟨b', sent, frame, hreturns, hleave⟩

/-- **The loop on the array is the loop on the bytes.** It accepts the same frames, and keeps
the same bytes. -/
theorem sendVenusMessages_refines {b' : Buffer} {sent : List (ℕ × UInt16)}
    (h : b.SendVenusMessages b' sent) :
    b.frames sent = (venusLoop b.used).1 ∧ b'.used = (venusLoop b.used).2 := by
  obtain ⟨frame, hreturns, hleave⟩ := h
  have hexit := (b.venus_sound.total b.scanInv_start).2.1 _ hreturns
  obtain ⟨b'', hleave', hused⟩ := used_leave hexit.frame_le
  rw [hleave] at hleave'
  cases hleave'
  exact ⟨hexit.sent, hused.trans hexit.left⟩

/-- `send_venus_messages` returns once. -/
theorem SendVenusMessages.unique {b' b'' : Buffer} {sent sent' : List (ℕ × UInt16)}
    (h : b.SendVenusMessages b' sent) (h' : b.SendVenusMessages b'' sent') :
    b' = b'' ∧ sent = sent' := by
  obtain ⟨frame, hreturns, hleave⟩ := h
  obtain ⟨frame', hreturns', hleave'⟩ := h'
  have hexit := hreturns.unique hreturns'
  cases hexit
  rw [hleave] at hleave'
  cases hleave'
  exact ⟨rfl, rfl⟩

/-- **The scan.** Whatever `buf` and `cur` are, `send_venus_messages` returns. In front of every
pass `frame` is not behind `cur`, and the pass is defined, so that it reads nothing at or behind
`cur`. The bytes kept are a suffix of those there were, are none or start with an A0, and
number at most 262. -/
theorem venus_scan_total (b : Buffer) :
    (∃ b' sent, b.SendVenusMessages b' sent) ∧
      (∀ s, b.venus.Reaches start s → s.frame ≤ b.cur ∧ b.venus.pass s ≠ none) ∧
      ∀ b' sent, b.SendVenusMessages b' sent →
        b'.used <:+ b.used ∧ (b'.used = [] ∨ b'.used.head? = some 0xA0) ∧
          b'.used.length ≤ 262 := by
  refine ⟨b.exists_sendVenusMessages, ?_, ?_⟩
  · intro s hreach
    have hinv := b.venus_sound.invariant b.scanInv_start hreach
    refine ⟨hinv.frame_le, ?_⟩
    rcases b.venus_sound s hinv with ⟨s', hpass, -⟩ | ⟨exit, hpass, -⟩
    · rw [hpass]
      exact Option.some_ne_none _
    · rw [hpass]
      exact Option.some_ne_none _
  · intro b' sent hsend
    rw [(sendVenusMessages_refines hsend).2]
    exact ⟨venusLoop_suffix _, head_venusLoop _, length_venusLoop_le _⟩

/-- Two bytes are dropped, a frame is transmitted, and an A0 is waited behind. -/
example : ∀ b ∈ empty.receive (chunk [0, 0, 0xA0, 0xA1, 0, 1, 2, 2, 0x0D, 0x0A, 0xA0]),
    b.venus.Returns start ⟨some 10, [(2, 1)]⟩ := by
  rintro b ⟨⟩
  exact Loop.returns_of_run (show Loop.run _ 2 start = _ by decide +kernel)

/-! ## Chunks -/

theorem exists_receive (b : Buffer) {m : Message} (hm : m.dataLength.toNat ≤ 512) :
    ∃ full, b.receive m = some full := by
  unfold receive
  by_cases hover : b.cur + m.dataLength.toNat ≥ sizeofBuf
  · simp only [if_pos hover]
    refine ⟨_, dif_pos ?_⟩
    show 0 + m.dataLength.toNat ≤ 512
    omega
  · simp only [if_neg hover]
    exact ⟨_, dif_pos (by omega)⟩

theorem overrun_used {m : Message} : overrun b.used m ↔ 512 ≤ b.cur + m.dataLength.toNat := by
  unfold overrun sizeofBuf
  rw [length_used]

/-- The scan runs over what `beforeCopy` keeps, followed by the chunk. -/
theorem used_receive {m : Message} {full : Buffer} (h : b.receive m = some full) :
    full.used = beforeCopy b.used m ++ m.payload := by
  have hcopy : ∀ c : Buffer, (memwrite c.buf c.cur m.payload).take (c.cur + m.dataLength.toNat) =
      c.used ++ m.payload := by
    intro c
    have hle : c.cur ≤ c.buf.length := by
      rw [c.length_buf]
      exact c.cur_le
    rw [← m.length_payload, take_memwrite hle]
    rfl
  unfold receive at h
  unfold beforeCopy
  by_cases hover : b.cur + m.dataLength.toNat ≥ sizeofBuf
  · simp only [if_pos hover] at h
    rw [if_pos (overrun_used.mpr hover), ← b.used_drop]
    split at h
    · cases h
      exact hcopy b.drop
    · cases h
  · simp only [if_neg hover] at h
    rw [if_neg fun hc => hover (overrun_used.mp hc)]
    split at h
    · cases h
      exact hcopy b
    · cases h

theorem exists_cotsRawIn (b : Buffer) {m : Message} (hm : m.dataLength.toNat ≤ 512) :
    ∃ b' sent, b.CotsRawIn m b' sent := by
  obtain ⟨full, hfull⟩ := b.exists_receive hm
  obtain ⟨b', sent, hsend⟩ := full.exists_sendVenusMessages
  exact ⟨b', sent, full, hfull, hsend⟩

/-- **`cots_raw_in` on the array is `cots_raw_in` on the bytes.** -/
theorem cotsRawIn_refines {m : Message} {b' : Buffer} {sent : List (ℕ × UInt16)}
    (h : b.CotsRawIn m b' sent) : b'.used = (Gps.cotsRawIn m b.used).1 := by
  obtain ⟨full, hfull, hsend⟩ := h
  rw [(sendVenusMessages_refines hsend).2, used_receive hfull]
  rfl

/-- The states reached are those of the machine. -/
theorem Reachable.exists_run (h : b.Reachable) : ∃ ms, b.used = machine.run ms := by
  induction h with
  | empty => exact ⟨[], rfl⟩
  | @cotsRawIn b b' m sent before hm returns ih =>
    obtain ⟨ms, hused⟩ := ih
    refine ⟨ms ++ [m], ?_⟩
    rw [cotsRawIn_refines returns, hused, machine.run_snoc]
    rfl

/-! ## Data that fits -/

/-- None of the buffered bytes is discarded: the scan runs over them and the whole chunk. -/
def Keeps (b : Buffer) (m : Message) : Prop :=
  ∃ full, b.receive m = some full ∧ full.used = b.used ++ m.payload

/-- **Data that fits.** In every state reached, at most 262 bytes are buffered. A chunk that
fits behind them is scanned together with them exactly if it does not fill the buffer to its
last byte, or nothing is buffered. -/
theorem keeps_buffered_iff (hb : b.Reachable) :
    b.cur ≤ 262 ∧ ∀ m : Message, b.cur + m.dataLength.toNat ≤ 512 →
      (b.Keeps m ↔ b.cur + m.dataLength.toNat ≠ 512 ∨ b.cur = 0) := by
  obtain ⟨ms, hused⟩ := hb.exists_run
  have hlen := b.length_used
  refine ⟨?_, fun m hfit => ⟨?_, ?_⟩⟩
  · rw [← hlen, hused]
    exact length_run_le ms
  · rintro ⟨full, hfull, hkept⟩
    by_contra hlost
    have hover : overrun b.used m := overrun_used.mpr (by omega)
    rw [used_receive hfull, beforeCopy, if_pos hover] at hkept
    have hnil := List.append_cancel_right hkept
    rw [← hnil, List.length_nil] at hlen
    omega
  · intro hcond
    obtain ⟨full, hfull⟩ := b.exists_receive (by omega : m.dataLength.toNat ≤ 512)
    refine ⟨full, hfull, ?_⟩
    rw [used_receive hfull, beforeCopy]
    by_cases hover : overrun b.used m
    · -- the chunk fills the empty buffer
      have hfull := overrun_used.mp hover
      have hnil : b.used = [] := List.length_eq_zero_iff.mp (by omega)
      rw [if_pos hover, hnil]
    · rw [if_neg hover]

/-- An A0 is waited on. -/
lemma exists_buffered_sync : ∃ b : Buffer, b.Reachable ∧ b.used = [0xA0] := by
  have hone : (chunk [0xA0]).dataLength.toNat ≤ 512 := by decide
  obtain ⟨b, sent, hb⟩ := empty.exists_cotsRawIn hone
  refine ⟨b, .cotsRawIn .empty hone hb, ?_⟩
  rw [cotsRawIn_refines hb]
  show (venusLoop [0xA0]).2 = [0xA0]
  rw [venusLoop_sync]
  rfl

lemma toNat_dataLength_zeros {n : ℕ} (h : n < 65536) :
    (chunk (List.replicate n 0)).dataLength.toNat = n := by
  rw [chunk, List.length_replicate, UInt16.toNat_ofNat']
  exact Nat.mod_eq_of_lt h

/-- An A0 is buffered, and 510 bytes follow: they are scanned together. -/
theorem keeps_buffered_sync :
    ∃ b : Buffer, b.Reachable ∧ b.used = [0xA0] ∧ b.Keeps (chunk (List.replicate 510 0)) := by
  obtain ⟨b, hb, hused⟩ := exists_buffered_sync
  have hmany := toNat_dataLength_zeros (n := 510) (by omega)
  have hcur : b.cur = 1 := by rw [← length_used, hused, List.length_singleton]
  exact ⟨b, hb, hused, ((keeps_buffered_iff hb).2 (chunk (List.replicate 510 0))
    (by omega)).mpr (Or.inl (by omega))⟩

/-- An A0 is buffered, and 511 bytes follow: the A0 is discarded. -/
theorem buffered_byte_lost :
    ∃ b : Buffer, b.Reachable ∧ b.used = [0xA0] ∧
      b.cur + (chunk (List.replicate 511 0)).dataLength.toNat = 512 ∧
      ¬b.Keeps (chunk (List.replicate 511 0)) := by
  obtain ⟨b, hb, hused⟩ := exists_buffered_sync
  have hmany := toNat_dataLength_zeros (n := 511) (by omega)
  have hcur : b.cur = 1 := by rw [← length_used, hused, List.length_singleton]
  refine ⟨b, hb, hused, by omega, ?_⟩
  rintro ⟨full, hfull, hkept⟩
  have hover : overrun b.used (chunk (List.replicate 511 0)) := overrun_used.mpr (by omega)
  rw [used_receive hfull, beforeCopy, if_pos hover, hused] at hkept
  have hlost := List.append_cancel_right hkept
  cases hlost

end Buffer
end Gps
end FlightComputer
