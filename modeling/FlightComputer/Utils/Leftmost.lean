import FlightComputer.Utils.Scanner

/-!
# Leftmost matches

What a scanner is to find is said by a `Pattern`: what a match looks like, and where nothing
can be decided yet. `Leftmost` reads an input from left to right, takes every match that is
not inside one taken before, and stops where nothing can be decided.

A scanner may move on faster than that. It still finds the leftmost matches and no others if
it takes matches, waits where nothing can be decided, and elsewhere skips no more than what
symbol by symbol would be skipped too (`scan_eq_iff_leftmost`).

Where a match says itself how long it is, matches that are found do not overlap, and one that
is not found is covered by one that is, or lies where nothing could be decided
(`found_or_covered`). Matches that have nothing but noise between them are all found
(`exists_leftmost_spaced`).
-/

namespace FlightComputer

/-- What to look for at the start of an input. -/
structure Pattern (α β : Type*) where
  /-- Whether there is a match cannot be said before more input arrives. -/
  Undecided : List α → Prop
  /-- The input starts with a match `x` of `n` symbols. -/
  Match : β → ℕ → List α → Prop

/-- The matches in an input that starts at position `p`, read from left to right, with their
positions, and the part of the input from the first undecided position on. -/
inductive Pattern.Leftmost {α β : Type*} (P : Pattern α β) :
    ℕ → List α → List (ℕ × β) → List α → Prop where
  | done (p : ℕ) : P.Leftmost p [] [] []
  | undecided (p : ℕ) {xs : List α} (h : P.Undecided xs) : P.Leftmost p xs [] xs
  | take (p : ℕ) {xs : List α} {x : β} {n : ℕ} {finds : List (ℕ × β)} {left : List α}
      (h : P.Match x n xs) (rest : P.Leftmost (p + n) (xs.drop n) finds left) :
      P.Leftmost p xs ((p, x) :: finds) left
  | skip (p : ℕ) {a : α} {xs : List α} {finds : List (ℕ × β)} {left : List α}
      (hundecided : ¬P.Undecided (a :: xs)) (hmatch : ∀ x n, ¬P.Match x n (a :: xs))
      (rest : P.Leftmost (p + 1) xs finds left) : P.Leftmost p (a :: xs) finds left

/-- What is found is there. -/
theorem Pattern.Leftmost.match_of_mem {α β : Type*} {P : Pattern α β} {p i : ℕ} {xs left : List α}
    {x : β} {finds : List (ℕ × β)} (h : P.Leftmost p xs finds left) (hmem : (i, x) ∈ finds) :
    p ≤ i ∧ ∃ n, P.Match x n (xs.drop (i - p)) := by
  induction h with
  | done p => cases hmem
  | undecided p h => cases hmem
  | @take p xs y n finds left h rest ih =>
    rcases List.mem_cons.mp hmem with heq | hmem
    · cases heq
      refine ⟨le_refl _, n, ?_⟩
      rwa [Nat.sub_self, List.drop_zero]
    · obtain ⟨hle, n', hn'⟩ := ih hmem
      refine ⟨by omega, n', ?_⟩
      rw [List.drop_drop, show n + (i - (p + n)) = i - p by omega] at hn'
      exact hn'
  | skip p hundecided hmatch rest ih =>
    obtain ⟨hle, n, hn⟩ := ih hmem
    refine ⟨by omega, n, ?_⟩
    rwa [show i - p = i - (p + 1) + 1 by omega, List.drop_succ_cons]

/-! ## Found or covered -/

section

variable {α β : Type*} {P : Pattern α β} {size : β → ℕ} {p : ℕ} {xs left : List α}
  {finds : List (ℕ × β)}

theorem Pattern.Leftmost.le_of_mem (h : P.Leftmost p xs finds left) :
    ∀ find ∈ finds, p ≤ find.1 := by
  rintro ⟨i, x⟩ hmem
  exact (h.match_of_mem hmem).1

/-- What is found does not overlap. -/
theorem Pattern.Leftmost.disjoint (hsize : ∀ {x n xs}, P.Match x n xs → n = size x)
    (h : P.Leftmost p xs finds left) :
    finds.Pairwise fun first second => first.1 + size first.2 ≤ second.1 := by
  induction h with
  | done p => exact .nil
  | undecided p h => exact .nil
  | take p hmatch rest ih =>
    refine .cons (fun find hfind => ?_) ih
    rw [← hsize hmatch]
    exact rest.le_of_mem find hfind
  | skip p hundecided hmatch rest ih => exact ih

/-- **A match is found, or covered by what is found**, or it starts behind the first undecided
position. -/
theorem Pattern.Leftmost.found_or_covered (hsize : ∀ {x n xs}, P.Match x n xs → n = size x)
    (h : P.Leftmost p xs finds left) {i n : ℕ} {x : β} (hmatch : P.Match x n (xs.drop i)) :
    (∃ y m, (p + i, y) ∈ finds ∧ P.Match y m (xs.drop i)) ∨
      (∃ find ∈ finds, find.1 < p + i ∧ p + i < find.1 + size find.2) ∨
      xs.length ≤ i + left.length := by
  induction h generalizing i with
  | done p => exact Or.inr (Or.inr (Nat.zero_le _))
  | undecided p h => exact Or.inr (Or.inr (Nat.le_add_left _ _))
  | @take p xs y m finds left hfirst rest ih =>
    have hm := hsize hfirst
    rcases Nat.eq_zero_or_pos i with rfl | hpos
    · exact Or.inl ⟨y, m, List.mem_cons_self, hfirst⟩
    · by_cases hcovered : i < m
      · refine Or.inr (Or.inl ⟨(p, y), List.mem_cons_self, ?_, ?_⟩)
        · show p < p + i
          omega
        · show p + i < p + size y
          omega
      · -- behind the first match
        have hdrop : (xs.drop m).drop (i - m) = xs.drop i := by
          rw [List.drop_drop]
          congr 1
          omega
        rw [← hdrop] at hmatch
        have hpos' : p + m + (i - m) = p + i := by omega
        rcases ih hmatch with ⟨z, k, hfind, hk⟩ | ⟨find, hfind, hlt, hgt⟩ | hlen
        · rw [hpos'] at hfind
          rw [hdrop] at hk
          exact Or.inl ⟨z, k, List.mem_cons_of_mem _ hfind, hk⟩
        · rw [hpos'] at hlt hgt
          exact Or.inr (Or.inl ⟨find, List.mem_cons_of_mem _ hfind, hlt, hgt⟩)
        · rw [List.length_drop] at hlen
          exact Or.inr (Or.inr (by omega))
  | @skip p a xs finds left hundecided hno rest ih =>
    rcases Nat.eq_zero_or_pos i with rfl | hpos
    · exact absurd hmatch (hno x n)
    · obtain ⟨i, rfl⟩ : ∃ j, i = j + 1 := ⟨i - 1, by omega⟩
      rw [List.drop_succ_cons] at hmatch
      have hpos' : p + 1 + i = p + (i + 1) := by omega
      rcases ih hmatch with ⟨z, k, hfind, hk⟩ | ⟨find, hfind, hlt, hgt⟩ | hlen
      · rw [hpos'] at hfind
        exact Or.inl ⟨z, k, hfind, by rwa [List.drop_succ_cons]⟩
      · rw [hpos'] at hlt hgt
        exact Or.inr (Or.inl ⟨find, hfind, hlt, hgt⟩)
      · rw [List.length_cons]
        exact Or.inr (Or.inr (by omega))

end

/-! ## Matches behind noise -/

section

variable {α β : Type*} {P : Pattern α β}

/-- Nothing starts with this symbol, whatever follows. -/
def Pattern.Inert (P : Pattern α β) (a : α) : Prop :=
  ∀ xs, ¬P.Undecided (a :: xs) ∧ ∀ x n, ¬P.Match x n (a :: xs)

theorem Pattern.leftmost_noise {noise : List α} (h : ∀ a ∈ noise, P.Inert a) {p : ℕ}
    {xs left : List α} {finds : List (ℕ × β)}
    (rest : P.Leftmost (p + noise.length) xs finds left) :
    P.Leftmost p (noise ++ xs) finds left := by
  induction noise generalizing p with
  | nil => exact rest
  | cons a noise ih =>
    obtain ⟨hundecided, hmatch⟩ := h a List.mem_cons_self (noise ++ xs)
    refine .skip p hundecided hmatch (ih (fun b hb => h b (List.mem_cons_of_mem a hb)) ?_)
    rwa [List.length_cons, Nat.add_comm noise.length, ← Nat.add_assoc] at rest

/-- Some matches, each with noise in front of it. -/
def spaced (write : β → List α) (pieces : List (List α × β)) : List α :=
  pieces.flatMap fun (noise, x) => noise ++ write x

/-- **All of them are found**, and nothing is left. -/
theorem Pattern.exists_leftmost_spaced {write : β → List α} {pieces : List (List α × β)}
    (hnoise : ∀ piece ∈ pieces, ∀ a ∈ piece.1, P.Inert a)
    (hwrite : ∀ piece ∈ pieces, ∀ rest,
      P.Match piece.2 (write piece.2).length (write piece.2 ++ rest)) (p : ℕ) :
    ∃ finds, P.Leftmost p (spaced write pieces) finds [] ∧
      finds.map Prod.snd = pieces.map Prod.snd := by
  induction pieces generalizing p with
  | nil => exact ⟨[], .done p, rfl⟩
  | cons piece pieces ih =>
    obtain ⟨noise, x⟩ := piece
    obtain ⟨finds, hfinds, hmap⟩ := ih (fun piece h => hnoise piece (List.mem_cons_of_mem _ h))
      (fun piece h => hwrite piece (List.mem_cons_of_mem _ h))
      (p + noise.length + (write x).length)
    refine ⟨(p + noise.length, x) :: finds, ?_, by rw [List.map_cons, List.map_cons, hmap]⟩
    have hstream : spaced write ((noise, x) :: pieces) =
        noise ++ (write x ++ spaced write pieces) := by
      rw [spaced, List.flatMap_cons, List.append_assoc]
      rfl
    rw [hstream]
    apply leftmost_noise (hnoise _ List.mem_cons_self)
    refine .take _ (hwrite _ List.mem_cons_self _) ?_
    rwa [List.drop_left]

end

namespace Scanner

variable {α β : Type*} (S : Scanner α β) (P : Pattern α β)

/-- A scanner finds the matches of a pattern: it waits where nothing can be decided, takes
matches, and passes over anything else as if it moved on by one symbol. -/
structure Finds : Prop where
  undecided : ∀ {xs}, P.Undecided xs → S.look xs = .wait
  take : ∀ {x n xs}, P.Match x n xs → S.look xs = .advance n (some x)
  skip : ∀ {a xs}, ¬P.Undecided (a :: xs) → (∀ x n, ¬P.Match x n (a :: xs)) →
    ∀ p, S.scan p (a :: xs) = S.scan (p + 1) xs

variable {S P}

theorem scan_of_leftmost (h : S.Finds P) {p : ℕ} {xs left : List α} {finds : List (ℕ × β)}
    (hleft : P.Leftmost p xs finds left) : S.scan p xs = (finds, left) := by
  induction hleft with
  | done p => exact S.scan_nil p
  | undecided p hundecided => exact S.scan_of_wait (h.undecided hundecided)
  | take p hmatch rest ih =>
    rw [S.scan_of_advance (h.take hmatch), ih]
    rfl
  | skip p hundecided hmatch rest ih => rw [h.skip hundecided hmatch, ih]

theorem leftmost_scan (h : S.Finds P) (p : ℕ) (xs : List α) :
    P.Leftmost p xs (S.scan p xs).1 (S.scan p xs).2 := by
  induction hlen : xs.length using Nat.strong_induction_on generalizing p xs with
  | h len ih =>
    by_cases hundecided : P.Undecided xs
    · rw [S.scan_of_wait (h.undecided hundecided)]
      exact .undecided p hundecided
    · by_cases hmatch : ∃ x n, P.Match x n xs
      · obtain ⟨x, n, hx⟩ := hmatch
        have hlook := h.take hx
        have hn := S.advance_le hlook
        have hshorter : (xs.drop n).length < len := by
          rw [List.length_drop]
          omega
        rw [S.scan_of_advance hlook]
        exact .take p hx (ih _ hshorter _ _ rfl)
      · have hno : ∀ x n, ¬P.Match x n xs := fun x n hx => hmatch ⟨x, n, hx⟩
        cases xs with
        | nil =>
          rw [S.scan_nil]
          exact .done p
        | cons a xs =>
          have hshorter : xs.length < len := by
            rw [← hlen, List.length_cons]
            omega
          rw [h.skip hundecided hno]
          exact .skip p hundecided hno (ih _ hshorter _ _ rfl)

/-- **Leftmost matches.** What the scanner finds and leaves are the leftmost matches and the
part from the first undecided position on. -/
theorem scan_eq_iff_leftmost (h : S.Finds P) (p : ℕ) (xs left : List α)
    (finds : List (ℕ × β)) : S.scan p xs = (finds, left) ↔ P.Leftmost p xs finds left := by
  constructor
  · intro hscan
    have hleft := leftmost_scan h p xs
    rwa [hscan] at hleft
  · exact scan_of_leftmost h

end Scanner
end FlightComputer
