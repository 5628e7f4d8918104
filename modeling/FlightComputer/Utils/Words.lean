import Mathlib.Data.Nat.Digits.Lemmas

/-!
# Bytes and the numbers they stand for

Byte strings read as numbers in base 256, least significant byte first (`leNat`) or most
significant byte first (`beNat`), and numbers cut to a fixed count of bytes (`leBytes`,
`beBytes`). A number of `k` bytes survives the trip through its bytes, and a byte string the
trip through its number. `swapBytes` is the number whose bytes come in the other order.
-/

namespace FlightComputer

/-- A byte string. -/
abbrev Bytes := List UInt8

/-! ## Reading and writing fixed-width numbers -/

/-- The number a byte string denotes, least significant byte first. -/
def leNat (bs : Bytes) : ℕ := Nat.ofDigits 256 (bs.map UInt8.toNat)

/-- The `k` low bytes of a number, least significant byte first. -/
def leBytes : ℕ → ℕ → Bytes
  | 0, _ => []
  | k + 1, n => UInt8.ofNat n :: leBytes k (n / 256)

/-- The number a byte string denotes, most significant byte first. -/
def beNat (bs : Bytes) : ℕ := leNat bs.reverse

/-- The `k` low bytes of a number, most significant byte first. -/
def beBytes (k n : ℕ) : Bytes := (leBytes k n).reverse

@[simp] theorem leNat_nil : leNat [] = 0 := rfl

@[simp] theorem leNat_cons (b : UInt8) (bs : Bytes) :
    leNat (b :: bs) = b.toNat + 256 * leNat bs := by
  simp [leNat, Nat.ofDigits_cons]

@[simp] theorem length_leBytes (k n : ℕ) : (leBytes k n).length = k := by
  induction k generalizing n with
  | zero => rfl
  | succ k ih => simp [leBytes, ih]

@[simp] theorem length_beBytes (k n : ℕ) : (beBytes k n).length = k := by
  simp [beBytes]

theorem leNat_lt (bs : Bytes) : leNat bs < 256 ^ bs.length := by
  induction bs with
  | nil => simp
  | cons b bs ih =>
    have hb := b.toNat_lt
    rw [leNat_cons, List.length_cons, pow_succ]
    omega

theorem beNat_lt (bs : Bytes) : beNat bs < 256 ^ bs.length := by
  simpa [beNat] using leNat_lt bs.reverse

theorem leNat_leBytes (k n : ℕ) : leNat (leBytes k n) = n % 256 ^ k := by
  induction k generalizing n with
  | zero => simp [leBytes, Nat.mod_one]
  | succ k ih =>
    rw [leBytes, leNat_cons, ih, UInt8.toNat_ofNat', pow_succ' 256]
    exact Nat.mod_mul.symm

theorem leBytes_leNat (bs : Bytes) : leBytes bs.length (leNat bs) = bs := by
  induction bs with
  | nil => rfl
  | cons b bs ih =>
    have hb := b.toNat_lt
    have hdiv : (b.toNat + 256 * leNat bs) / 256 = leNat bs := by omega
    have hmod : UInt8.ofNat (b.toNat + 256 * leNat bs) = b := by
      apply UInt8.toNat_inj.mp
      rw [UInt8.toNat_ofNat']
      omega
    rw [List.length_cons, leNat_cons, leBytes, hdiv, ih, hmod]

theorem beNat_beBytes (k n : ℕ) : beNat (beBytes k n) = n % 256 ^ k := by
  rw [beNat, beBytes, List.reverse_reverse, leNat_leBytes]

theorem beNat_beBytes_of_lt {k n : ℕ} (h : n < 256 ^ k) : beNat (beBytes k n) = n := by
  rw [beNat_beBytes, Nat.mod_eq_of_lt h]

/-! ## The other byte order -/

/-- The `k`-byte number with the bytes of `n` in the other order. -/
def swapBytes (k n : ℕ) : ℕ := leNat (beBytes k n)

/-- Swapping before a little-endian store leaves the bytes in big-endian order. -/
theorem leBytes_swapBytes (k n : ℕ) : leBytes k (swapBytes k n) = beBytes k n := by
  have h := leBytes_leNat (beBytes k n)
  rwa [length_beBytes] at h

/-- Swapping after a little-endian load reads the bytes in big-endian order. -/
theorem swapBytes_leNat (bs : Bytes) : swapBytes bs.length (leNat bs) = beNat bs := by
  rw [swapBytes, beBytes, leBytes_leNat, beNat]

end FlightComputer
