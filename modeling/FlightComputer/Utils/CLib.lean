import FlightComputer.Utils.Words

/-!
# The C library and the host

String and memory functions of C on byte strings, and the byte order of a little-endian
host.

An object in memory is the string of bytes from a pointer to the end of the object. A read
past that end is undefined in C; the functions here then read NUL bytes.
-/

namespace FlightComputer

/-! ## Strings -/

/-- The characters of a string, without the terminating NUL. -/
def ascii (s : String) : Bytes := s.toList.map Char.toUInt8

/-- A string literal in memory, with its terminating NUL. -/
def literal (s : String) : Bytes := ascii s ++ [0]

/-- `strlen` -/
def strlen (s : String) : ℕ := (ascii s).length

/-- `strncmp(a, b, n)` -/
def strncmp : Bytes → Bytes → ℕ → ℤ
  | _, _, 0 => 0
  | a, b, n + 1 =>
    if a.headD 0 ≠ b.headD 0 then (a.headD 0).toNat - (b.headD 0).toNat
    else if a.headD 0 = 0 then 0
    else strncmp a.tail b.tail n

/-! ## Memory -/

/-- `memchr(mem, c, n)` on a string of `n` bytes: what is left from the first `c` on. -/
def memchr (mem : Bytes) (c : UInt8) : Option Bytes :=
  match mem.dropWhile (· != c) with
  | [] => none
  | found => some found

/-- The `n` bytes `memcpy` reads from `mem`. -/
def memread (mem : Bytes) (n : ℕ) : Bytes := mem.take n ++ List.replicate (n - mem.length) 0

/-- `mem` after a `memcpy` or `memmove` of some bytes to an offset in it. -/
def memwrite (mem : Bytes) (offset : ℕ) (bytes : Bytes) : Bytes :=
  mem.take offset ++ bytes ++ mem.drop (offset + bytes.length)

@[simp] theorem length_memread (mem : Bytes) (n : ℕ) : (memread mem n).length = n := by
  simp only [memread, List.length_append, List.length_take, List.length_replicate]
  omega

theorem memread_length (mem : Bytes) : memread mem mem.length = mem := by
  simp [memread]

theorem length_memwrite {mem bytes : Bytes} {offset : ℕ}
    (h : offset + bytes.length ≤ mem.length) : (memwrite mem offset bytes).length = mem.length := by
  simp only [memwrite, List.length_append, List.length_take, List.length_drop]
  omega

/-- Up to the end of what was written, there is what was there before it, and the bytes. -/
theorem take_memwrite {mem bytes : Bytes} {offset : ℕ} (h : offset ≤ mem.length) :
    (memwrite mem offset bytes).take (offset + bytes.length) = mem.take offset ++ bytes := by
  have hlen : (mem.take offset ++ bytes).length = offset + bytes.length := by
    rw [List.length_append, List.length_take_of_le h]
  rw [memwrite, ← hlen, List.take_left]

@[simp] theorem memchr_nil (c : UInt8) : memchr [] c = none := rfl

theorem memchr_cons_self (c : UInt8) (tail : Bytes) : memchr (c :: tail) c = some (c :: tail) := by
  rw [memchr, List.dropWhile_cons_of_neg (by simp)]

theorem memchr_cons_of_ne {b c : UInt8} (tail : Bytes) (h : b ≠ c) :
    memchr (b :: tail) c = memchr tail c := by
  rw [memchr, List.dropWhile_cons_of_pos (by simpa using h), memchr]

/-- What `memchr` finds is a suffix that starts with the byte looked for. -/
theorem memchr_eq_some {mem found : Bytes} {c : UInt8} (h : memchr mem c = some found) :
    found <:+ mem ∧ ∃ tail, found = c :: tail := by
  unfold memchr at h
  split at h
  · cases h
  · next hne =>
    cases h
    obtain ⟨b, tail, hbt⟩ := List.exists_cons_of_ne_nil hne
    have hhead := List.head_dropWhile_not (· != c) hne
    refine ⟨List.dropWhile_suffix _, tail, ?_⟩
    simp only [hbt, List.head_cons, bne_eq_false_iff_eq] at hhead
    rw [hbt, hhead]

/-! ## Byte order -/

/-- Load a number from memory in the byte order of the host. -/
def load (mem : Bytes) : ℕ := leNat mem

/-- The `k` bytes of a number stored in the byte order of the host. -/
def store (k n : ℕ) : Bytes := leBytes k n

def htons (n : ℕ) : ℕ := swapBytes 2 n

def htonl (n : ℕ) : ℕ := swapBytes 4 n

def ntohs (n : ℕ) : ℕ := swapBytes 2 n

def ntohl (n : ℕ) : ℕ := swapBytes 4 n

theorem store_htons (n : ℕ) : store 2 (htons n) = beBytes 2 n := leBytes_swapBytes 2 n

theorem store_htonl (n : ℕ) : store 4 (htonl n) = beBytes 4 n := leBytes_swapBytes 4 n

theorem ntohl_load {mem : Bytes} (h : mem.length = 4) : ntohl (load mem) = beNat mem := by
  rw [ntohl, load, ← h, swapBytes_leNat]

end FlightComputer
