import FlightComputer.TimeTheorems

/-!
# `utils_time` in 64-bit words

`toPsasTime` computes with integers and takes the remainder once. The code computes with words all
along: the differences are signed, the nanoseconds left by a borrow are negative, and turn into
a large unsigned number that cancels against the product. The two functions on words are those
on integers (`toPsasTime64_eq`, `toNat_fromPsasTime64`), so that what holds of time stamps holds
of the code.
-/

namespace FlightComputer

/-! ## Words and integers -/

/-- The numbers the words stand for. -/
def Timespec64.toTimespec (ts : Timespec64) : Timespec where
  tvSec := ts.tvSec.toInt
  tvNsec := ts.tvNsec.toInt

/-- The instant they denote. -/
def Timespec64.nanoseconds (ts : Timespec64) : ℤ := ts.toTimespec.nanoseconds

/-- A signed word taken as an unsigned one is the number it stands for, modulo 2^64. -/
theorem cast_toNat_toUInt64 (x : Int64) : (x.toUInt64.toNat : ℤ) = x.toInt % 2 ^ 64 := by
  have hx := BitVec.toInt_eq_toNat_cond x.toBitVec
  have hlt := x.toUInt64.toNat_lt
  change x.toInt = if 2 * x.toUInt64.toNat < 2 ^ 64 then (x.toUInt64.toNat : ℤ)
    else (x.toUInt64.toNat : ℤ) - (2 ^ 64 : ℕ) at hx
  split_ifs at hx <;> omega

theorem cast_toNat_sub (x y : Int64) :
    ((x - y).toUInt64.toNat : ℤ) = (x.toInt - y.toInt) % 2 ^ 64 := by
  rw [cast_toNat_toUInt64, Int64.toInt_sub]
  exact Int.bmod_emod

/-- What the code calls `now`. -/
theorem toNat_now (sec nsec starttimeSec starttimeNsec : Int64) :
    ((nsec - starttimeNsec).toUInt64 + (sec - starttimeSec).toUInt64 * 1000000000).toNat =
      ((nsec.toInt - starttimeNsec.toInt + (sec.toInt - starttimeSec.toInt) * 1000000000)
        % 2 ^ 64).toNat := by
  have hsec := cast_toNat_sub sec starttimeSec
  have hnsec := cast_toNat_sub nsec starttimeNsec
  have hbillion : (1000000000 : UInt64).toNat = 1000000000 := rfl
  rw [UInt64.toNat_add, UInt64.toNat_mul, hbillion]
  omega

theorem toUInt8_shiftRight (now : UInt64) {shift : UInt64} {n : ℕ} (hshift : shift.toNat = n)
    (hn : n < 64) : (now >>> shift).toUInt8 = UInt8.ofNat (now.toNat >>> n) := by
  apply UInt8.toNat_inj.mp
  rw [UInt64.toNat_toUInt8, UInt64.toNat_shiftRight, hshift, Nat.mod_eq_of_lt hn,
    UInt8.toNat_ofNat']

/-- The six bytes of a word are those of its number. -/
theorem sixBytes_eq {word : UInt64} {now : ℕ} (h : word.toNat = now) :
    (#v[(word >>> 40).toUInt8, (word >>> 32).toUInt8, (word >>> 24).toUInt8,
        (word >>> 16).toUInt8, (word >>> 8).toUInt8, word.toUInt8] : Timestamp) =
      #v[UInt8.ofNat (now >>> 40), UInt8.ofNat (now >>> 32), UInt8.ofNat (now >>> 24),
        UInt8.ofNat (now >>> 16), UInt8.ofNat (now >>> 8), UInt8.ofNat now] := by
  subst h
  have hlast : word.toUInt8 = UInt8.ofNat word.toNat := by
    apply UInt8.toNat_inj.mp
    rw [UInt64.toNat_toUInt8, UInt8.toNat_ofNat']
  rw [toUInt8_shiftRight word (n := 40) rfl (by omega),
    toUInt8_shiftRight word (n := 32) rfl (by omega),
    toUInt8_shiftRight word (n := 24) rfl (by omega),
    toUInt8_shiftRight word (n := 16) rfl (by omega),
    toUInt8_shiftRight word (n := 8) rfl (by omega), hlast]

/-- **The words of `to_psas_time`** come out as its numbers do. -/
theorem toPsasTime64_eq (starttime ts : Timespec64) :
    toPsasTime64 starttime ts = toPsasTime starttime.toTimespec ts.toTimespec :=
  sixBytes_eq (toNat_now ts.tvSec ts.tvNsec starttime.tvSec starttime.tvNsec)

/-- As long as nothing is shifted out, a byte shifted in is a digit in base 256. -/
theorem toNat_shift_or_byte {time : UInt64} {n : ℕ} (b : UInt8) (h : time.toNat = n)
    (hn : n < 2 ^ 56) : ((time <<< 8) ||| b.toUInt64).toNat = n * 256 + b.toNat := by
  have h8 : (8 : UInt64).toNat % 64 = 8 := rfl
  have hfits : n <<< 8 % 2 ^ 64 = n <<< 8 := by
    rw [Nat.shiftLeft_eq]
    omega
  rw [UInt64.toNat_or, UInt64.toNat_shiftLeft, h8, h, hfits, UInt8.toNat_toUInt64, shift_or_byte]

/-- **The word of `from_psas_time`** is its number. -/
theorem toNat_fromPsasTime64 (ts : Timestamp) : (fromPsasTime64 ts).toNat = fromPsasTime ts := by
  have b0 := (ts.get 0).toNat_lt
  have b1 := (ts.get 1).toNat_lt
  have b2 := (ts.get 2).toNat_lt
  have b3 := (ts.get 3).toNat_lt
  have b4 := (ts.get 4).toNat_lt
  have h0 := UInt8.toNat_toUInt64 (ts.get 0)
  have h1 := toNat_shift_or_byte (ts.get 1) h0 (by omega)
  have h2 := toNat_shift_or_byte (ts.get 2) h1 (by omega)
  have h3 := toNat_shift_or_byte (ts.get 3) h2 (by omega)
  have h4 := toNat_shift_or_byte (ts.get 4) h3 (by omega)
  rw [fromPsasTime_eq]
  exact toNat_shift_or_byte (ts.get 5) h4 (by omega)

/-! ## The codec -/

/-- `0 <= tv_nsec < 10^9` -/
def Timespec64.Normalised (ts : Timespec64) : Prop :=
  0 ≤ ts.tvNsec.toInt ∧ ts.tvNsec.toInt < 10 ^ 9

/-- Decoding is exact modulo 2^48. -/
theorem cast_decode_encode (starttime ts : Timespec64) :
    ((fromPsasTime64 (toPsasTime64 starttime ts)).toNat : ℤ) =
      (ts.nanoseconds - starttime.nanoseconds) % 2 ^ 48 := by
  rw [toNat_fromPsasTime64, toPsasTime64_eq, fromPsasTime_toPsasTime,
    cast_reading (by norm_num [psasPeriod])]
  rfl

/-- Two time stamps that are decoded to the same number are the same. -/
theorem fromPsasTime_injective {ts ts' : Timestamp} (h : fromPsasTime ts = fromPsasTime ts') :
    ts = ts' := by
  have hbyte : ∀ i : Fin 6, (ts.get i).toNat < 256 ∧ (ts'.get i).toNat < 256 :=
    fun i => ⟨(ts.get i).toNat_lt, (ts'.get i).toNat_lt⟩
  have b0 := hbyte 0
  have b1 := hbyte 1
  have b2 := hbyte 2
  have b3 := hbyte 3
  have b4 := hbyte 4
  have b5 := hbyte 5
  rw [fromPsasTime_eq, fromPsasTime_eq] at h
  have hdigits : (ts.get 0).toNat = (ts'.get 0).toNat ∧ (ts.get 1).toNat = (ts'.get 1).toNat ∧
      (ts.get 2).toNat = (ts'.get 2).toNat ∧ (ts.get 3).toNat = (ts'.get 3).toNat ∧
      (ts.get 4).toNat = (ts'.get 4).toNat ∧ (ts.get 5).toNat = (ts'.get 5).toNat := by
    omega
  obtain ⟨d0, d1, d2, d3, d4, d5⟩ := hdigits
  apply Vector.ext
  intro i hi
  apply UInt8.toNat_inj.mp
  match i, hi with
  | 0, _ => exact d0
  | 1, _ => exact d1
  | 2, _ => exact d2
  | 3, _ => exact d3
  | 4, _ => exact d4
  | 5, _ => exact d5

/-- Every instant in range has a normalised `timespec`. -/
theorem exists_normalised {t : ℤ} (hlow : -2 ^ 63 * 10 ^ 9 ≤ t) (hhigh : t < 2 ^ 63 * 10 ^ 9) :
    ∃ ts : Timespec64, ts.Normalised ∧ ts.nanoseconds = t := by
  have hsec : (Int64.ofInt (t / 10 ^ 9)).toInt = t / 10 ^ 9 :=
    Int64.toInt_ofInt_of_le (by omega) (by omega)
  have hnsec : (Int64.ofInt (t % 10 ^ 9)).toInt = t % 10 ^ 9 :=
    Int64.toInt_ofInt_of_le (by omega) (by omega)
  refine ⟨⟨.ofInt (t / 10 ^ 9), .ofInt (t % 10 ^ 9)⟩, ?_, ?_⟩
  · unfold Timespec64.Normalised
    dsimp only
    rw [hnsec]
    omega
  · show (Int64.ofInt (t / 10 ^ 9)).toInt * 10 ^ 9 + (Int64.ofInt (t % 10 ^ 9)).toInt = t
    rw [hsec, hnsec]
    omega

/-- **The codec.** A time stamp is decoded to the time since the start modulo 2^48, whatever is
borrowed; less than 2^48 ns after the start, order and difference of two instants are those of
their stamps; and every six bytes are the stamp of the instants that lie as far behind the
start as they are decoded to, of which there is a normalised one. -/
theorem psas_time_codec (starttime : Timespec64) :
    (∀ ts, ((fromPsasTime64 (toPsasTime64 starttime ts)).toNat : ℤ) =
        (ts.nanoseconds - starttime.nanoseconds) % 2 ^ 48) ∧
      (∀ ts ts', starttime.nanoseconds ≤ ts.nanoseconds →
        ts.nanoseconds - starttime.nanoseconds < 2 ^ 48 →
        starttime.nanoseconds ≤ ts'.nanoseconds →
        ts'.nanoseconds - starttime.nanoseconds < 2 ^ 48 →
        (fromPsasTime64 (toPsasTime64 starttime ts) ≤ fromPsasTime64 (toPsasTime64 starttime ts') ↔
            ts.nanoseconds ≤ ts'.nanoseconds) ∧
          ((fromPsasTime64 (toPsasTime64 starttime ts')).toNat : ℤ) -
              (fromPsasTime64 (toPsasTime64 starttime ts)).toNat =
            ts'.nanoseconds - ts.nanoseconds) ∧
      ∀ bytes : Timestamp,
        (∀ ts, ts.nanoseconds - starttime.nanoseconds = (fromPsasTime64 bytes).toNat →
          toPsasTime64 starttime ts = bytes) ∧
        (starttime.Normalised → starttime.nanoseconds < 2 ^ 63 →
          ∃ ts : Timespec64, ts.Normalised ∧
            ts.nanoseconds - starttime.nanoseconds = (fromPsasTime64 bytes).toNat) := by
  refine ⟨cast_decode_encode starttime, ?_, fun bytes => ⟨?_, ?_⟩⟩
  · intro ts ts' hle hlt hle' hlt'
    have hts := cast_decode_encode starttime ts
    have hts' := cast_decode_encode starttime ts'
    rw [Int.emod_eq_of_lt (by omega) hlt] at hts
    rw [Int.emod_eq_of_lt (by omega) hlt'] at hts'
    rw [UInt64.le_iff_toNat_le]
    omega
  · intro ts hts
    have hdecode := cast_decode_encode starttime ts
    have hlt := fromPsasTime_lt bytes
    rw [toNat_fromPsasTime64] at hts
    rw [hts, Int.emod_eq_of_lt (by omega) (by omega), toNat_fromPsasTime64] at hdecode
    exact fromPsasTime_injective (by omega)
  · rintro ⟨hnonneg, -⟩ hstart
    have hlt := fromPsasTime_lt bytes
    have hsec := starttime.tvSec.le_toInt
    have hns : starttime.nanoseconds =
      starttime.tvSec.toInt * 10 ^ 9 + starttime.tvNsec.toInt := rfl
    rw [toNat_fromPsasTime64]
    obtain ⟨ts, hnorm, hts⟩ := exists_normalised (by omega :
      -2 ^ 63 * 10 ^ 9 ≤ starttime.nanoseconds + fromPsasTime bytes) (by omega)
    exact ⟨ts, hnorm, by omega⟩

/-- A second and six nanoseconds, with a borrow. -/
theorem psas_time_codec_borrow :
    (fromPsasTime64 (toPsasTime64 ⟨1, 999999999⟩ ⟨3, 5⟩)).toNat = 1000000006 ∧
      fromPsasTime64 (toPsasTime64 ⟨1, 999999999⟩ ⟨2, 7⟩) ≤
        fromPsasTime64 (toPsasTime64 ⟨1, 999999999⟩ ⟨3, 5⟩) ∧
      toPsasTime64 ⟨1, 999999999⟩ ⟨3, 5⟩ = #v[0, 0, 0x3B, 0x9A, 0xCA, 0x06] := by
  obtain ⟨hdecode, horder, hencode⟩ := psas_time_codec ⟨1, 999999999⟩
  have hnumber := hdecode ⟨3, 5⟩
  refine ⟨?_, ?_, ?_⟩
  · have hvalue : (Timespec64.nanoseconds ⟨3, 5⟩ - Timespec64.nanoseconds ⟨1, 999999999⟩) % 2 ^ 48 =
        1000000006 := by decide
    omega
  · exact (horder ⟨2, 7⟩ ⟨3, 5⟩ (by decide) (by decide) (by decide) (by decide)).1.mpr (by decide)
  · exact (hencode #v[0, 0, 0x3B, 0x9A, 0xCA, 0x06]).1 ⟨3, 5⟩ (by decide)

end FlightComputer
