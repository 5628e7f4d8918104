import FlightComputer.GpsTheorems
import FlightComputer.Utils.Leftmost

/-!
# Which frames are accepted

A frame is said here by what it looks like (`venusFrame`), and what the loop accepts by
reading the bytes from left to right, without the loop (`venusPattern`). The loop skips one
byte or two where the first byte cannot be that of a frame, and never one that can
(`scanner_finds`), so it accepts the leftmost frames and keeps what is undecided.

What is sent on for a frame is its packet but for the ID byte, if it has one: the length
passed is the packet length minus one, in 16 bits.
-/

namespace FlightComputer
namespace Gps

/-! ## Frames -/

/-- A Venus frame: the sync bytes, the big-endian packet length, the packet, its XOR, CR LF. -/
def venusFrame (packet : Bytes) : Bytes :=
  [0xA0, 0xA1] ++ beBytes 2 packet.length ++ packet ++ [chexxor packet, 0x0D, 0x0A]

/-- The bytes are too few to say whether they start with a frame. -/
def VenusUndecided (xs : Bytes) : Prop :=
  (xs.head? = some 0xA0 ∧ xs.length < 7) ∨
    ∃ L, L ≤ 256 ∧ [0xA0, 0xA1] ++ beBytes 2 L <+: xs ∧ xs.length < 7 + L

/-- The bytes start with a frame whose packet is `find.2`. -/
def VenusMatch (find : Find) (n : ℕ) (xs : Bytes) : Prop :=
  find.2.length ≤ 256 ∧ find.1.toNat = find.2.length ∧ n = find.2.length + 7 ∧
    venusFrame find.2 <+: xs

/-- What to look for in the GPS stream. -/
def venusPattern : Pattern UInt8 Find where
  Undecided := VenusUndecided
  Match := VenusMatch

theorem exists_beBytes_two (L : ℕ) : ∃ high low, beBytes 2 L = [high, low] :=
  List.length_eq_two.mp (length_beBytes 2 L)

/-- What comes behind the length field. -/
theorem drop_four_venusFrame (packet rest : Bytes) :
    (venusFrame packet ++ rest).drop 4 = packet ++ chexxor packet :: 0x0D :: 0x0A :: rest := by
  obtain ⟨high, low, hbytes⟩ := exists_beBytes_two packet.length
  rw [venusFrame, hbytes]
  simp

/-! ## The tests of the loop on a frame -/

theorem toNat_readPacketLen (high low : UInt8) :
    (readPacketLen high low).toNat = high.toNat * 256 + low.toNat := by
  have hhigh := high.toNat_lt
  have hlow := low.toNat_lt
  have hshift : high.toNat <<< 8 % 2 ^ 16 = high.toNat <<< 8 := by
    rw [Nat.shiftLeft_eq]
    omega
  have hor := Nat.shiftLeft_add_eq_or_of_lt (by omega : low.toNat < 2 ^ 8) high.toNat
  unfold readPacketLen
  rw [UInt16.toNat_or, UInt16.toNat_shiftLeft, UInt8.toNat_toUInt16, UInt8.toNat_toUInt16]
  change high.toNat <<< 8 % 2 ^ 16 ||| low.toNat = _
  rw [hshift, ← hor, Nat.shiftLeft_eq]

/-- The length field of a frame is read back. -/
theorem readPacketLen_beBytes {L : ℕ} (hL : L ≤ 256) {high low : UInt8}
    (h : beBytes 2 L = [high, low]) : (readPacketLen high low).toNat = L := by
  have hnat : beNat [high, low] = L := by
    rw [← h]
    exact beNat_beBytes_of_lt (by omega)
  have hbytes : beNat [high, low] = high.toNat * 256 + low.toNat := by
    simp [beNat]
    ring
  rw [toNat_readPacketLen, ← hbytes, hnat]

/-- The tests that know the packet length, on a packet and three bytes behind it. -/
theorem checkPacket_packet (header rest : Bytes) (c d e : UInt8) {packet : Bytes}
    {packetLen : UInt16} (hheader : header.length = 4) (hpacket : packet.length = packetLen.toNat)
    (hle : packetLen.toNat ≤ 256) :
    checkPacket (header ++ packet ++ c :: d :: e :: rest) packetLen =
      if d ≠ 0x0D ∨ e ≠ 0x0A then .skip 2
      else if chexxor packet ≠ c then .skip 2
      else .accept packetLen := by
  have hlen : (header ++ packet ++ c :: d :: e :: rest).length =
      7 + packetLen.toNat + rest.length := by
    simp only [List.length_append, List.length_cons]
    omega
  have hat : ∀ i, (header ++ packet ++ c :: d :: e :: rest)[4 + packetLen.toNat + i]? =
      (c :: d :: e :: rest)[i]? := by
    intro i
    rw [List.getElem?_append_right (by simp only [List.length_append]; omega)]
    congr 1
    rw [List.length_append]
    omega
  have hc : ∀ h : 4 + packetLen.toNat < (header ++ packet ++ c :: d :: e :: rest).length,
      (header ++ packet ++ c :: d :: e :: rest)[4 + packetLen.toNat] = c :=
    fun h => (List.getElem_eq_iff h).mpr (hat 0)
  have hd : ∀ h : 5 + packetLen.toNat < (header ++ packet ++ c :: d :: e :: rest).length,
      (header ++ packet ++ c :: d :: e :: rest)[5 + packetLen.toNat] = d := by
    intro h
    rw [List.getElem_eq_iff, show 5 + packetLen.toNat = 4 + packetLen.toNat + 1 by omega, hat 1]
    rfl
  have he : ∀ h : 6 + packetLen.toNat < (header ++ packet ++ c :: d :: e :: rest).length,
      (header ++ packet ++ c :: d :: e :: rest)[6 + packetLen.toNat] = e := by
    intro h
    rw [List.getElem_eq_iff, show 6 + packetLen.toNat = 4 + packetLen.toNat + 2 by omega, hat 2]
    rfl
  have htake : ((header ++ packet ++ c :: d :: e :: rest).drop 4).take packetLen.toNat =
      packet := by
    rw [List.append_assoc, ← hheader, List.drop_left, ← hpacket, List.take_left]
  have hshort : ¬(header ++ packet ++ c :: d :: e :: rest).length < 7 + packetLen.toNat := by
    omega
  have hlong : ¬packetLen.toNat > sizeofBuf / 2 := by
    unfold sizeofBuf
    omega
  unfold checkPacket
  rw [if_neg hlong, dif_neg hshort, hd, he, hc, htake]

/-- Enough bytes for a packet and its trailer are a packet and three bytes behind it. -/
theorem exists_packet {body : Bytes} {L : ℕ} (h : L + 3 ≤ body.length) :
    ∃ packet c d e rest, packet.length = L ∧ body = packet ++ c :: d :: e :: rest := by
  have hlen : 3 ≤ (body.drop L).length := by
    rw [List.length_drop]
    omega
  match hdrop : body.drop L, hlen with
  | c :: d :: e :: rest, _ =>
    refine ⟨body.take L, c, d, e, rest, List.length_take_of_le (by omega), ?_⟩
    rw [← hdrop, List.take_append_drop]

/-- The tests of the loop on the first four bytes. -/
theorem checkFrame_header (a b high low : UInt8) {body : Bytes} (h : 3 ≤ body.length) :
    checkFrame (a :: b :: high :: low :: body) =
      if b ≠ 0xA1 then .skip 1
      else checkPacket (a :: b :: high :: low :: body) (readPacketLen high low) := by
  have hlen : ¬(a :: b :: high :: low :: body).length < 7 := by
    simp only [List.length_cons]
    omega
  unfold checkFrame
  rw [dif_neg hlen]
  rfl

/-! ## The scanner and the pattern -/

theorem look_of_undecided {xs : Bytes} (h : VenusUndecided xs) : look xs = .wait := by
  rcases h with ⟨hhead, hlen⟩ | ⟨L, hL, ⟨body, rfl⟩, hlen⟩
  · obtain ⟨tail, rfl⟩ : ∃ tail, xs = 0xA0 :: tail := List.head?_eq_some_iff.mp hhead
    apply look_of_wait
    rw [checkFrame, dif_pos hlen]
  · obtain ⟨high, low, hbytes⟩ := exists_beBytes_two L
    have hread := readPacketLen_beBytes hL hbytes
    rw [hbytes] at hlen ⊢
    change look (0xA0 :: 0xA1 :: high :: low :: body) = .wait
    change (0xA0 :: 0xA1 :: high :: low :: body).length < 7 + L at hlen
    apply look_of_wait
    by_cases hshort : (0xA0 :: 0xA1 :: high :: low :: body).length < 7
    · rw [checkFrame, dif_pos hshort]
    · have hbody : 3 ≤ body.length := by
        simp only [List.length_cons] at hshort
        omega
      rw [checkFrame_header _ _ _ _ hbody, if_neg (by simp), checkPacket, if_neg, dif_pos]
      · rwa [hread]
      · rw [hread]
        unfold sizeofBuf
        omega

theorem look_of_match {find : Find} {n : ℕ} {xs : Bytes} (h : VenusMatch find n xs) :
    look xs = .advance n (some find) := by
  obtain ⟨packetLen, packet⟩ := find
  obtain ⟨hle, hlen, rfl, rest, rfl⟩ := h
  dsimp only at hle hlen ⊢
  obtain ⟨high, low, hbytes⟩ := exists_beBytes_two packet.length
  have hread : readPacketLen high low = packetLen := by
    apply UInt16.toNat_inj.mp
    rw [readPacketLen_beBytes hle hbytes, hlen]
  have hxs : venusFrame packet ++ rest =
      0xA0 :: 0xA1 :: high :: low :: (packet ++ chexxor packet :: 0x0D :: 0x0A :: rest) := by
    simp [venusFrame, hbytes]
  have hbody : 3 ≤ (packet ++ chexxor packet :: 0x0D :: 0x0A :: rest).length := by
    simp only [List.length_append, List.length_cons]
    omega
  have hcheck := checkPacket_packet [0xA0, 0xA1, high, low] rest (chexxor packet) 0x0D 0x0A rfl
    hlen.symm (by omega)
  rw [if_neg (by simp), if_neg (by simp)] at hcheck
  have haccept : checkFrame (0xA0 :: 0xA1 :: high :: low ::
      (packet ++ chexxor packet :: 0x0D :: 0x0A :: rest)) = .accept packetLen := by
    rw [checkFrame_header _ _ _ _ hbody, if_neg (by simp), hread]
    exact hcheck
  have hpacket : Frame.packet ⟨0xA0 :: 0xA1 :: high :: low ::
      (packet ++ chexxor packet :: 0x0D :: 0x0A :: rest), packetLen⟩ = packet := by
    show (packet ++ _).take packetLen.toNat = packet
    rw [hlen, List.take_left]
  rw [hxs, look_of_accept haccept, hpacket, hlen]

theorem beBytes_readPacketLen (high low : UInt8) :
    beBytes 2 (readPacketLen high low).toNat = [high, low] := by
  have hnat : (readPacketLen high low).toNat = leNat [low, high] := by
    rw [toNat_readPacketLen]
    simp
    ring
  have hback := leBytes_leNat [low, high]
  rw [beBytes, hnat]
  change (leBytes [low, high].length (leNat [low, high])).reverse = _
  rw [hback]
  rfl

theorem scan_of_skip_one {p n : ℕ} {xs : Bytes} {a : UInt8}
    (hn : n = 1 ∨ n = 2 ∧ xs.head? = some 0xA1) (h : look (a :: xs) = .advance n none) :
    scanner.scan p (a :: xs) = scanner.scan (p + 1) xs := by
  have hlook : scanner.look (a :: xs) = .advance n none := h
  rw [scanner.scan_of_advance hlook]
  rcases hn with rfl | ⟨rfl, hhead⟩
  · rfl
  · -- the second byte skipped cannot be the first of a frame
    obtain ⟨tail, rfl⟩ : ∃ tail, xs = 0xA1 :: tail := List.head?_eq_some_iff.mp hhead
    have hnext : look (0xA1 :: tail) = .advance 1 none := look_of_ne tail (by decide)
    have hlook' : scanner.look (0xA1 :: tail) = .advance 1 none := hnext
    rw [scanner.scan_of_advance hlook']
    rfl

/-- From an A0 on, what is neither a frame nor undecided fails one of the tests. -/
theorem checkFrame_of_no_match {xs : Bytes} (hundecided : ¬VenusUndecided (0xA0 :: xs))
    (hmatch : ∀ find n, ¬VenusMatch find n (0xA0 :: xs)) :
    ∃ n, checkFrame (0xA0 :: xs) = .skip n ∧ (n = 1 ∨ n = 2 ∧ xs.head? = some 0xA1) := by
  have hlen : 7 ≤ (0xA0 :: xs).length := by
    by_contra hshort
    exact hundecided (Or.inl ⟨rfl, by omega⟩)
  match xs, hlen with
  | b :: high :: low :: body, hlen =>
    have hbody : 3 ≤ body.length := by
      simp only [List.length_cons] at hlen
      omega
    have hheader := checkFrame_header 0xA0 b high low hbody
    by_cases hb : b = 0xA1
    · subst hb
      rw [if_neg (by simp)] at hheader
      rw [hheader]
      by_cases hlong : (readPacketLen high low).toNat > 256
      · rw [checkPacket, if_pos (by unfold sizeofBuf; omega)]
        exact ⟨2, rfl, Or.inr ⟨rfl, rfl⟩⟩
      · have henough : (readPacketLen high low).toNat + 3 ≤ body.length := by
          by_contra hshort
          refine hundecided (Or.inr ⟨(readPacketLen high low).toNat, by omega, ?_, ?_⟩)
          · rw [beBytes_readPacketLen]
            exact ⟨body, rfl⟩
          · simp only [List.length_cons]
            omega
        obtain ⟨packet, c, d, e, rest, hpacket, rfl⟩ := exists_packet henough
        have hcheck := checkPacket_packet [0xA0, 0xA1, high, low] rest c d e rfl hpacket
          (by omega)
        change checkPacket (0xA0 :: 0xA1 :: high :: low :: (packet ++ c :: d :: e :: rest)) _ = _
          at hcheck
        rw [hcheck]
        by_cases htrailer : d ≠ 0x0D ∨ e ≠ 0x0A
        · rw [if_pos htrailer]
          exact ⟨2, rfl, Or.inr ⟨rfl, rfl⟩⟩
        · rw [if_neg htrailer]
          by_cases hxor : chexxor packet ≠ c
          · rw [if_pos hxor]
            exact ⟨2, rfl, Or.inr ⟨rfl, rfl⟩⟩
          · -- all tests passed: there is a frame
            rw [not_or, not_not, not_not] at htrailer
            rw [not_not] at hxor
            refine absurd ⟨?_, hpacket.symm, rfl, ⟨rest, ?_⟩⟩
              (hmatch (readPacketLen high low, packet) (packet.length + 7))
            · dsimp only
              omega
            · have hbytes := beBytes_readPacketLen high low
              rw [← hpacket] at hbytes
              simp [venusFrame, hbytes, hxor, htrailer]
    · rw [hheader, if_pos hb]
      exact ⟨1, rfl, Or.inl rfl⟩

/-- What is neither a frame nor undecided is skipped. -/
theorem scan_of_skip {a : UInt8} {xs : Bytes} (hundecided : ¬VenusUndecided (a :: xs))
    (hmatch : ∀ find n, ¬VenusMatch find n (a :: xs)) (p : ℕ) :
    scanner.scan p (a :: xs) = scanner.scan (p + 1) xs := by
  by_cases ha : a = 0xA0
  · subst ha
    obtain ⟨n, hskip, hn⟩ := checkFrame_of_no_match hundecided hmatch
    exact scan_of_skip_one hn (look_of_skip hskip)
  · exact scan_of_skip_one (Or.inl rfl) (look_of_ne xs ha)

/-- **The loop looks for frames.** -/
theorem scanner_finds : scanner.Finds venusPattern where
  undecided := look_of_undecided
  take := look_of_match
  skip := scan_of_skip

/-- The frames the loop accepts are the leftmost ones, and it leaves what is undecided. -/
theorem leftmost_iff_venusLoop {b : Bytes} {frames : List (ℕ × Find)} {left : Bytes} :
    venusPattern.Leftmost 0 b frames left ↔
      (venusLoop b).1.map (Frame.find b.length) = frames ∧ (venusLoop b).2 = left := by
  have hscan := scan_eq_venusLoop 0 b
  rw [Nat.zero_add] at hscan
  rw [← scanner.scan_eq_iff_leftmost scanner_finds, hscan, Prod.mk.injEq]

theorem leftmost_venusLoop (b : Bytes) :
    venusPattern.Leftmost 0 b ((venusLoop b).1.map (Frame.find b.length)) (venusLoop b).2 :=
  leftmost_iff_venusLoop.mpr ⟨rfl, rfl⟩

/-- **The leftmost frames.** The frames accepted are the frames in the buffer, read from left
to right, up to the first undecided position, and the bytes from there on are kept. -/
theorem accepts_leftmost_frames (timestamp : Timestamp) (b : State) (frames : List (ℕ × Find))
    (left : State) :
    ((sendVenusMessages timestamp b).2.map (fun o => o.frame.find b.length) = frames ∧
        (sendVenusMessages timestamp b).1 = left) ↔
      venusPattern.Leftmost 0 b frames left := by
  have hframes : (sendVenusMessages timestamp b).2.map (fun o => o.frame.find b.length) =
      (venusLoop b).1.map (Frame.find b.length) := by
    rw [sendVenusMessages, List.map_map]
    rfl
  rw [leftmost_iff_venusLoop, hframes]
  rfl

/-- A frame alone is found, and nothing is left of it. -/
theorem leftmost_venusFrame (packet : Bytes) (h : packet.length ≤ 256) :
    venusPattern.Leftmost 0 (venusFrame packet) [(0, UInt16.ofNat packet.length, packet)] [] := by
  have hmatch : VenusMatch (UInt16.ofNat packet.length, packet) (packet.length + 7)
      (venusFrame packet) := by
    refine ⟨h, ?_, rfl, List.prefix_rfl⟩
    show (UInt16.ofNat packet.length).toNat = packet.length
    rw [UInt16.toNat_ofNat']
    exact Nat.mod_eq_of_lt (by omega)
  have hdrop : (venusFrame packet).drop (packet.length + 7) = [] := by
    apply List.drop_of_length_le
    simp only [venusFrame, List.length_append, length_beBytes, List.length_cons, List.length_nil]
    omega
  refine .take 0 hmatch ?_
  rw [hdrop]
  exact .done _

/-! ## What is sent on -/

/-- A frame accepted lies in the buffer, up to its end. -/
theorem suffix_of_mem {xs : Bytes} {f : Frame} (h : f ∈ (venusLoop xs).1) : f.mem <:+ xs := by
  fun_induction venusLoop xs with
  | case1 => cases h
  | case2 start hne hfound => cases h
  | case3 start hne frame hfound hcheck => cases h
  | case4 start hne frame hfound n hcheck ih =>
    exact ((ih h).trans (List.drop_suffix n frame)).trans (memchr_eq_some hfound).1
  | case5 start hne frame hfound packetLen hcheck rest ih =>
    rcases List.mem_cons.mp h with heq | hmem
    · rw [heq]
      exact (memchr_eq_some hfound).1
    · exact ((ih hmem).trans (List.drop_suffix _ frame)).trans (memchr_eq_some hfound).1

/-- A frame accepted, byte by byte. -/
theorem mem_eq_venusFrame {b : Bytes} {f : Frame} (h : f ∈ (venusLoop b).1) :
    f.packet.length = f.packetLen.toNat ∧ f.packetLen.toNat ≤ 256 ∧
      ∃ after, f.mem = venusFrame f.packet ++ after := by
  have hsuffix := suffix_of_mem h
  obtain ⟨-, n, hle, hlen, -, after, hafter⟩ :=
    (leftmost_venusLoop b).match_of_mem (List.mem_map_of_mem h)
  have hmem : b.drop (b.length - f.mem.length) = f.mem := by
    obtain ⟨before, rfl⟩ := hsuffix
    rw [List.length_append, Nat.add_sub_cancel, List.drop_left]
  rw [Nat.sub_zero] at hafter
  dsimp only at hle hlen hafter
  exact ⟨hlen.symm, by omega, after, by rw [hafter, hmem]⟩

/-- No frame among some bytes, read from left to right, is without a packet. -/
def NoEmptyFrame (bytes : Bytes) : Prop :=
  ∀ frames left, venusPattern.Leftmost 0 bytes frames left → ∀ f ∈ frames, f.2.2 ≠ []

theorem packet_eq_nil_iff {b : Bytes} {f : Frame} (h : f ∈ (venusLoop b).1) :
    f.packet = [] ↔ f.packetLen = 0 := by
  rw [← List.length_eq_zero_iff, (mem_eq_venusFrame h).1, ← UInt16.toNat_inj]
  rfl

/-- The loop finds no other frames. -/
theorem noEmptyFrame_iff (b : Bytes) : NoEmptyFrame b ↔ ∀ f ∈ (venusLoop b).1, f.packet ≠ [] := by
  constructor
  · intro h f hf
    exact h _ _ (leftmost_venusLoop b) _ (List.mem_map_of_mem hf)
  · intro h frames left hleft find hfind
    rw [← (leftmost_iff_venusLoop.mp hleft).1] at hfind
    obtain ⟨f, hf, rfl⟩ := List.mem_map.mp hfind
    exact h f hf

/-- The characters of the hexadecimal digits, in order. -/
def upperHexDigits : List Char := "0123456789ABCDEF".toList

theorem hexDigit_eq : ∀ n < 16, (upperHexDigits[n]?).map Char.toUInt8 = some (hexDigit n) := by
  decide

/-- What is sent on is the payload of a frame in the buffer: the ID says the first byte of the
packet, the length is that of the packet without it, and the pointer is to the byte behind it. -/
def Genuine (b : Bytes) (o : Output) : Prop :=
  ∃ before id body after, b = before ++ venusFrame (id :: body) ++ after ∧
    o.frame.mem = venusFrame (id :: body) ++ after ∧
    o.frame.packetLen.toNat = (id :: body).length ∧
    o.message.ID.get 0 = 'V'.toUInt8 ∧ o.message.ID.get 1 = '8'.toUInt8 ∧
    some (o.message.ID.get 2) = (upperHexDigits[id.toNat / 16]?).map Char.toUInt8 ∧
    some (o.message.ID.get 3) = (upperHexDigits[id.toNat % 16]?).map Char.toUInt8 ∧
    (o.message.dataLength.toNat : ℤ) = (o.frame.packetLen.toNat : ℤ) - 1 ∧
    o.message.dataLength.toNat ≤ 255 ∧
    o.message.data = body ++ [chexxor (id :: body), 0x0D, 0x0A] ++ after ∧
    o.message.data.take o.message.dataLength.toNat = body

theorem genuine_of_packet (timestamp : Timestamp) {b : Bytes} {f : Frame} {id : UInt8}
    {body : Bytes} (h : f ∈ (venusLoop b).1) (hpacket : f.packet = id :: body) :
    Genuine b ⟨timestamp, f⟩ := by
  obtain ⟨hlen, hle, after, hafter⟩ := mem_eq_venusFrame h
  obtain ⟨before, hbefore⟩ := suffix_of_mem h
  rw [hpacket] at hlen hafter
  rw [List.length_cons] at hlen
  have hne : f.packetLen ≠ 0 := by
    intro hzero
    rw [hzero] at hlen
    cases hlen
  have hdata : (gpsDataOut timestamp f).dataLength.toNat = body.length := by
    rw [toNat_dataLength timestamp hne]
    omega
  have hdrop := drop_four_venusFrame (id :: body) after
  rw [← hafter] at hdrop
  have hdrop' : f.mem.drop 5 = body ++ [chexxor (id :: body), 0x0D, 0x0A] ++ after := by
    have htail := congrArg List.tail hdrop
    rw [List.tail_drop] at htail
    rw [htail]
    simp
  have hid : (gpsDataOut timestamp f).ID = venusID id := by
    show venusID ((f.mem.drop 4).headD 0) = _
    rw [hdrop]
    rfl
  have hhigh := hexDigit_eq (id.toNat / 16) (by have := id.toNat_lt; omega)
  have hlow := hexDigit_eq (id.toNat % 16) (Nat.mod_lt _ (by omega))
  refine ⟨before, id, body, after, ?_, hafter, ?_, ?_, ?_, ?_, ?_, ?_, ?_, hdrop', ?_⟩
  · rw [List.append_assoc, ← hafter, hbefore]
  · exact hlen.symm
  · show (gpsDataOut timestamp f).ID.get 0 = _
    rw [hid]
    rfl
  · show (gpsDataOut timestamp f).ID.get 1 = _
    rw [hid]
    rfl
  · show some ((gpsDataOut timestamp f).ID.get 2) = _
    rw [hid, hhigh]
    rfl
  · show some ((gpsDataOut timestamp f).ID.get 3) = _
    rw [hid, hlow]
    rfl
  · show ((gpsDataOut timestamp f).dataLength.toNat : ℤ) = _
    rw [hdata]
    dsimp only
    omega
  · show (gpsDataOut timestamp f).dataLength.toNat ≤ 255
    omega
  · show (f.mem.drop 5).take (gpsDataOut timestamp f).dataLength.toNat = body
    rw [hdata, hdrop', List.append_assoc, List.take_left]

/-- **Payloads really received.** Everything sent on for a buffer is the payload of a frame in
it exactly if no packet among the leftmost frames is empty. -/
theorem sends_payloads_iff (timestamp : Timestamp) (b : State) :
    (∀ o ∈ (sendVenusMessages timestamp b).2, Genuine b o) ↔
      ∀ frames left, venusPattern.Leftmost 0 b frames left → ∀ f ∈ frames, f.2.2 ≠ [] := by
  constructor
  · intro hgenuine frames left hleft find hfind hempty
    rw [← (leftmost_iff_venusLoop.mp hleft).1, List.mem_map] at hfind
    obtain ⟨f, hf, rfl⟩ := hfind
    obtain ⟨-, id, body, -, -, -, hlen, -⟩ :=
      hgenuine ⟨timestamp, f⟩ (List.mem_map_of_mem hf)
    change f.packet = [] at hempty
    have hpacket := (mem_eq_venusFrame hf).1
    rw [hempty, List.length_nil] at hpacket
    rw [← hpacket] at hlen
    cases hlen
  · intro hnonempty o ho
    obtain ⟨f, hf, rfl⟩ := List.mem_map.mp ho
    have hne : f.packet ≠ [] := by
      have hleft := leftmost_venusLoop b
      exact hnonempty _ _ hleft (f.find b.length) (List.mem_map_of_mem hf)
    obtain ⟨id, body, hpacket⟩ := List.exists_cons_of_ne_nil hne
    exact genuine_of_packet timestamp hf hpacket

/-- An empty packet is sent on as 65535 bytes. -/
theorem sends_empty_packet :
    ¬∀ (timestamp : Timestamp) (b : State), b.length ≤ 512 →
      ∀ o ∈ (sendVenusMessages timestamp b).2, Genuine b o := by
  intro h
  have hsent : (venusLoop (venusFrame [])).1 = [⟨venusFrame [], 0⟩] := by
    have hcheck : checkFrame (0xA0 :: (venusFrame []).tail) = .accept 0 := by decide
    have hloop := venusLoop_sync (venusFrame []).tail
    rw [hcheck] at hloop
    change venusLoop (venusFrame []) = _ at hloop
    rw [hloop]
    change [_] ++ (venusLoop []).1 = _
    rw [venusLoop_nil]
    rfl
  obtain ⟨-, id, body, -, -, -, hlen, -⟩ :=
    h #v[0, 0, 0, 0, 0, 0] (venusFrame []) (by decide) ⟨_, ⟨venusFrame [], 0⟩⟩
      (List.mem_map_of_mem (hsent ▸ List.mem_singleton_self _))
  cases hlen

end Gps
end FlightComputer
