import Mathlib.Data.List.Basic

/-!
# Streams of self-delimiting records

A `Codec` writes a record as a non-empty string that can be read back whatever follows it.
Records written one after the other are then read back as the same list of records, with
nothing left over (`decodeAll_encodeAll`), so a stream determines its records.
-/

namespace FlightComputer

/-- A self-delimiting encoding of records `ρ` as strings over `β`. -/
structure Codec (ρ β : Type*) where
  encode : ρ → List β
  /-- Read one record off the front of a string. -/
  decode : List β → Option (ρ × List β)
  /-- A record is read back in front of anything. -/
  decode_encode : ∀ r rest, decode (encode r ++ rest) = some (r, rest)
  /-- Reading a record uses up part of the string. -/
  length_decode_lt : ∀ {bs r rest}, decode bs = some (r, rest) → rest.length < bs.length

namespace Codec

variable {ρ β : Type*} (C : Codec ρ β)

/-- The records of a list, written one after the other. -/
def encodeAll (rs : List ρ) : List β := rs.flatMap C.encode

/-- Read a string as consecutive records with nothing left over. -/
def decodeAll (bs : List β) : Option (List ρ) :=
  if bs = [] then some []
  else
    match _h : C.decode bs with
    | none => none
    | some (r, rest) => (decodeAll rest).map (r :: ·)
termination_by bs.length
decreasing_by exact C.length_decode_lt _h

@[simp] theorem encodeAll_nil : C.encodeAll [] = [] := rfl

@[simp] theorem encodeAll_cons (r : ρ) (rs : List ρ) :
    C.encodeAll (r :: rs) = C.encode r ++ C.encodeAll rs := rfl

@[simp] theorem encodeAll_append (rs ss : List ρ) :
    C.encodeAll (rs ++ ss) = C.encodeAll rs ++ C.encodeAll ss :=
  List.flatMap_append

theorem encodeAll_singleton (r : ρ) : C.encodeAll [r] = C.encode r := by
  rw [encodeAll_cons, encodeAll_nil, List.append_nil]

/-- No record is written as the empty string. -/
theorem encode_ne_nil (r : ρ) : C.encode r ≠ [] := by
  intro hnil
  have hlt := C.length_decode_lt (C.decode_encode r [])
  simp [hnil] at hlt

theorem encodeAll_eq_nil_iff (rs : List ρ) : C.encodeAll rs = [] ↔ rs = [] := by
  cases rs with
  | nil => simp
  | cons r rs => simp [C.encode_ne_nil r]

theorem decodeAll_nil : C.decodeAll [] = some [] := by
  rw [decodeAll, if_pos rfl]

theorem decodeAll_encode_append (r : ρ) (bs : List β) :
    C.decodeAll (C.encode r ++ bs) = (C.decodeAll bs).map (r :: ·) := by
  have hne : C.encode r ++ bs ≠ [] := by simp [C.encode_ne_nil r]
  rw [decodeAll, if_neg hne]
  split
  · next h => rw [C.decode_encode] at h; cases h
  · next h =>
    rw [C.decode_encode] at h
    cases h
    rfl

/-- **Round trip.** Records written one after the other are read back, nothing left over. -/
theorem decodeAll_encodeAll (rs : List ρ) : C.decodeAll (C.encodeAll rs) = some rs := by
  induction rs with
  | nil => exact C.decodeAll_nil
  | cons r rs ih => rw [encodeAll_cons, decodeAll_encode_append, ih, Option.map_some]

end Codec
end FlightComputer
