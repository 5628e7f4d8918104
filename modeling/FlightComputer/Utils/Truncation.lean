import FlightComputer.Utils.Codec

/-!
# Streams that break off

A stream of records that was cut anywhere, as by a crash while it was written, still reads as
far as it goes. `decodeMost` takes off whole records as long as there are any. What it reads of
a cut stream is a beginning of the records (`decodeMost_prefix`) that lacks none of those that
are there as a whole (`prefix_decodeMost`), and what it leaves is less than one record.

The codec must not read more than it writes (`Exact`): then no part of a record is a record.
-/

namespace FlightComputer
namespace Codec

variable {ρ β : Type*} (C : Codec ρ β)

/-- What is read as a record is how the record is written. -/
def Exact : Prop := ∀ {bs r rest}, C.decode bs = some (r, rest) → bs = C.encode r ++ rest

/-- The records read off the front of a string, and what is left of it. -/
def decodeMost (bs : List β) : List ρ × List β :=
  match _h : C.decode bs with
  | none => ([], bs)
  | some (r, rest) => (r :: (decodeMost rest).1, (decodeMost rest).2)
termination_by bs.length
decreasing_by all_goals exact C.length_decode_lt _h

variable {C}

theorem decodeMost_of_none {bs : List β} (h : C.decode bs = none) :
    C.decodeMost bs = ([], bs) := by
  rw [decodeMost]
  split
  · rfl
  · next hsome =>
    rw [h] at hsome
    cases hsome

theorem decodeMost_encode_append (r : ρ) (bs : List β) :
    C.decodeMost (C.encode r ++ bs) = (r :: (C.decodeMost bs).1, (C.decodeMost bs).2) := by
  rw [decodeMost]
  split
  · next hnone =>
    rw [C.decode_encode] at hnone
    cases hnone
  · next hsome =>
    rw [C.decode_encode] at hsome
    cases hsome
    rfl

/-- **Nothing that is there is missing.** -/
theorem prefix_decodeMost {rs : List ρ} {bs : List β} (h : C.encodeAll rs <+: bs) :
    rs <+: (C.decodeMost bs).1 := by
  obtain ⟨rest, rfl⟩ := h
  induction rs with
  | nil => exact List.nil_prefix
  | cons r rs ih =>
    rw [encodeAll_cons, List.append_assoc, decodeMost_encode_append]
    exact List.cons_prefix_cons.mpr ⟨rfl, ih⟩

/-- A part of a record is no record. -/
theorem Exact.decode_eq_none (hC : C.Exact) {r : ρ} {bs : List β} (h : bs <+: C.encode r)
    (hne : bs ≠ C.encode r) : C.decode bs = none := by
  obtain ⟨more, hmore⟩ := h
  cases hdecode : C.decode bs with
  | none => rfl
  | some found =>
    obtain ⟨r', rest⟩ := found
    -- the whole record would then read as `r'`, with something left over
    have hwhole : C.decode (C.encode r ++ []) = some (r', rest ++ more) := by
      rw [List.append_nil, ← hmore, hC hdecode, List.append_assoc, C.decode_encode]
    rw [C.decode_encode, Option.some.injEq, Prod.mk.injEq] at hwhole
    have hnil := List.append_eq_nil_iff.mp hwhole.2.symm
    rw [hnil.2, List.append_nil] at hmore
    exact absurd hmore hne

/-- **A stream that breaks off reads as far as it goes.** What is left is less than a record. -/
theorem Exact.decodeMost_prefix (hC : C.Exact) {rs : List ρ} {bs : List β}
    (h : bs <+: C.encodeAll rs) :
    (C.decodeMost bs).1 <+: rs ∧
      ((C.decodeMost bs).2 = [] ∨
        ∃ r ∈ rs, (C.decodeMost bs).2 <+: C.encode r ∧ (C.decodeMost bs).2 ≠ C.encode r) := by
  induction rs generalizing bs with
  | nil =>
    have hnil : bs = [] := List.prefix_nil.mp h
    subst hnil
    have hnone : C.decode [] = none := by
      cases hdecode : C.decode [] with
      | none => rfl
      | some found => exact absurd (List.append_eq_nil_iff.mp (hC hdecode).symm).1 (C.encode_ne_nil _)
    rw [decodeMost_of_none hnone]
    exact ⟨List.prefix_rfl, Or.inl rfl⟩
  | cons r rs ih =>
    rw [encodeAll_cons] at h
    by_cases hwhole : C.encode r <+: bs
    · obtain ⟨rest, rfl⟩ := hwhole
      rw [decodeMost_encode_append]
      obtain ⟨hread, hleft⟩ := ih ((List.prefix_append_right_inj _).mp h)
      refine ⟨List.cons_prefix_cons.mpr ⟨rfl, hread⟩, hleft.imp_right ?_⟩
      rintro ⟨r', hr', hpart⟩
      exact ⟨r', List.mem_cons_of_mem r hr', hpart⟩
    · -- the stream breaks off in the first record
      have hpart : bs <+: C.encode r :=
        (List.prefix_or_prefix_of_prefix h (List.prefix_append _ _)).resolve_right hwhole
      have hne : bs ≠ C.encode r := fun heq => hwhole (heq ▸ List.prefix_rfl)
      rw [decodeMost_of_none (hC.decode_eq_none hpart hne)]
      exact ⟨List.nil_prefix, Or.inr ⟨r, List.mem_cons_self, hpart, hne⟩⟩

end Codec
end FlightComputer
