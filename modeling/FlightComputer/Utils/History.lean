import Mathlib.Data.List.DropRight

/-!
# What a counter remembers of a history

A saturating counter that restarts on every bad sample holds the length of the unbroken run
of good samples at the end of the history, up to its limit (`saturating_count`). It stands at
the limit exactly when that many samples have arrived and the last of them were all good
(`le_length_rtakeWhile_iff`).
-/

namespace FlightComputer

variable {α : Type*} (p : α → Bool)

/-- The good run at the end of a history reaches back `k` samples exactly when there are that
many, and the last `k` are good. -/
theorem le_length_rtakeWhile_iff (k : ℕ) (l : List α) :
    k ≤ (l.rtakeWhile p).length ↔ k ≤ l.length ∧ ∀ x ∈ l.rtake k, p x = true := by
  induction l using List.reverseRecOn generalizing k with
  | nil => simp
  | append_singleton l x ih =>
    cases k with
    | zero => simp
    | succ k =>
      rw [List.rtakeWhile_concat, List.rtake_concat_succ, List.length_append]
      by_cases hx : p x = true
      · rw [if_pos hx, List.length_append]
        have hk := ih k
        simp only [List.length_singleton, Nat.add_le_add_iff_right, List.mem_append,
          List.mem_singleton]
        rw [hk]
        constructor
        · rintro ⟨hle, hall⟩
          refine ⟨hle, fun y hy => ?_⟩
          rcases hy with hy | rfl
          · exact hall y hy
          · exact hx
        · rintro ⟨hle, hall⟩
          exact ⟨hle, fun y hy => hall y (Or.inl hy)⟩
      · rw [if_neg hx]
        constructor
        · intro h
          simp at h
        · rintro ⟨-, hall⟩
          exact absurd (hall x (List.mem_append_right _ (List.mem_singleton_self x))) hx

/-- A saturating counter of good samples that restarts on a bad one, over one more sample. -/
theorem saturating_count (limit : ℕ) (l : List α) (x : α) :
    min limit ((l ++ [x]).rtakeWhile p).length =
      if p x = true then
        (if min limit (l.rtakeWhile p).length < limit then min limit (l.rtakeWhile p).length + 1
        else min limit (l.rtakeWhile p).length)
      else 0 := by
  rw [List.rtakeWhile_concat]
  by_cases hx : p x = true
  · rw [if_pos hx, if_pos hx, List.length_append, List.length_singleton]
    split_ifs <;> omega
  · rw [if_neg hx, if_neg hx, List.length_nil, Nat.min_zero]

end FlightComputer
