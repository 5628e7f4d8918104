import FlightComputer.Utils.Machine
import Mathlib.Tactic.Ring

/-!
# Scanners that can be resumed

A scanner walks over its input from left to right. Looking at what is left, it either moves
on by some symbols, perhaps reporting a find, or asks to wait for more input. It is
*resumable* when a decision to move on does not depend on what comes later.

Such a scanner can be fed its input in pieces, keeping what it is still waiting on:
`outputs_feed` and `run_feed` say that the finds, their positions and the part left over are
those of a single scan over the whole input, however it was cut.
-/

namespace FlightComputer

/-- What a scanner decides in front of the remaining input. -/
inductive Decision (β : Type*) where
  /-- Nothing can be decided before more input arrives. -/
  | wait
  /-- Move on by `n` symbols, reporting `found` at the current position. -/
  | advance (n : ℕ) (found : Option β)

/-- A resumable scanner over `α` with finds in `β`. -/
structure Scanner (α β : Type*) where
  look : List α → Decision β
  /-- Moving on is progress, within the input. -/
  advance_le : ∀ {xs n found}, look xs = .advance n found → 0 < n ∧ n ≤ xs.length
  /-- A decision to move on stands whatever comes later. -/
  resume : ∀ {xs n found} ys, look xs = .advance n found → look (xs ++ ys) = .advance n found

namespace Scanner

variable {α β : Type*} (S : Scanner α β)

/-- Scan an input that starts at position `p`: the finds with their positions, and the part
of the input the scanner waits on. -/
def scan (p : ℕ) (xs : List α) : List (ℕ × β) × List α :=
  if xs = [] then ([], [])
  else
    match _h : S.look xs with
    | .wait => ([], xs)
    | .advance n found =>
      let rest := scan (p + n) (xs.drop n)
      (found.toList.map (p, ·) ++ rest.1, rest.2)
termination_by xs.length
decreasing_by
  have hn := S.advance_le _h
  rw [List.length_drop]
  omega

@[simp] theorem scan_nil (p : ℕ) : S.scan p [] = ([], []) := by
  rw [scan, if_pos rfl]

theorem scan_of_wait {p : ℕ} {xs : List α} (h : S.look xs = .wait) :
    S.scan p xs = ([], xs) := by
  rw [scan]
  split
  · next hnil => rw [hnil]
  · split
    · rfl
    · next h' => rw [h] at h'; cases h'

theorem scan_of_advance {p : ℕ} {xs : List α} {n : ℕ} {found : Option β}
    (h : S.look xs = .advance n found) :
    S.scan p xs = (found.toList.map (p, ·) ++ (S.scan (p + n) (xs.drop n)).1,
      (S.scan (p + n) (xs.drop n)).2) := by
  have hne : xs ≠ [] := by
    rintro rfl
    have := S.advance_le h
    simp at this
    omega
  rw [scan, if_neg hne]
  split
  · next h' => rw [h] at h'; cases h'
  · next h' =>
    rw [h] at h'
    cases h'
    rfl

/-- Induction along a scan: the scanner waits, or advances and goes on from there. -/
theorem scan_induction {P : ℕ → List α → Prop}
    (wait : ∀ p xs, S.look xs = .wait → P p xs)
    (advance : ∀ p xs n found, S.look xs = .advance n found →
      P (p + n) (xs.drop n) → P p xs) (p : ℕ) (xs : List α) : P p xs := by
  induction h : xs.length using Nat.strong_induction_on generalizing p xs with
  | h len ih =>
    cases hlook : S.look xs with
    | wait => exact wait p xs hlook
    | advance n found =>
      have hn := S.advance_le hlook
      refine advance p xs n found hlook (ih (xs.drop n).length ?_ _ _ rfl)
      rw [List.length_drop]
      omega

/-- What is left over is a suffix of the input. -/
theorem scan_suffix (p : ℕ) (xs : List α) : (S.scan p xs).2 <:+ xs := by
  induction p, xs using S.scan_induction with
  | wait p xs h => simp [S.scan_of_wait h]
  | advance p xs n found h ih =>
    rw [S.scan_of_advance h]
    exact ih.trans (List.drop_suffix n xs)

/-- The scanner waits on what it left over, unless that is empty. -/
theorem look_leftover (p : ℕ) (xs : List α) :
    (S.scan p xs).2 = [] ∨ S.look (S.scan p xs).2 = .wait := by
  induction p, xs using S.scan_induction with
  | wait p xs h => rw [S.scan_of_wait h]; exact Or.inr h
  | advance p xs n found h ih => rw [S.scan_of_advance h]; exact ih

/-- A scan over an input that grows is the scan so far, and the scan of what it left over
followed by the new input. -/
theorem scan_append (p : ℕ) (xs ys : List α) :
    S.scan p (xs ++ ys) =
      ((S.scan p xs).1 ++
          (S.scan (p + (xs.length - (S.scan p xs).2.length)) ((S.scan p xs).2 ++ ys)).1,
        (S.scan (p + (xs.length - (S.scan p xs).2.length)) ((S.scan p xs).2 ++ ys)).2) := by
  induction p, xs using S.scan_induction with
  | wait p xs h => simp [S.scan_of_wait h]
  | advance p xs n found h ih =>
    have hn := S.advance_le h
    have hlen := (S.scan_suffix (p + n) (xs.drop n)).length_le
    rw [List.length_drop] at hlen ih
    have hpos : p + n + (xs.length - n - (S.scan (p + n) (xs.drop n)).2.length)
        = p + (xs.length - (S.scan (p + n) (xs.drop n)).2.length) := by omega
    rw [hpos] at ih
    rw [S.scan_of_advance (S.resume ys h), S.scan_of_advance h,
      List.drop_append_of_le_length hn.2, ih, List.append_assoc]

/-! ## Feeding the input in pieces -/

/-- The scanner fed piece by piece. It keeps the part it waits on, and the position of that
part in the whole input. -/
def feed : Machine (ℕ × List α) (List α) (ℕ × β) where
  init := (0, [])
  step := fun (p, kept) piece =>
    let r := S.scan p (kept ++ piece)
    ((p + ((kept ++ piece).length - r.2.length), r.2), r.1)

/-- **Independence of the cut.** After any pieces, the finds are those of one scan over the
whole input, and so is the part left over. -/
theorem feed_eq_scan (pieces : List (List α)) :
    S.feed.outputs pieces = (S.scan 0 pieces.flatten).1 ∧
      S.feed.run pieces =
        (pieces.flatten.length - (S.scan 0 pieces.flatten).2.length,
          (S.scan 0 pieces.flatten).2) := by
  refine S.feed.run_induction (P := fun pieces s out =>
    out = (S.scan 0 pieces.flatten).1 ∧ s = (pieces.flatten.length -
      (S.scan 0 pieces.flatten).2.length, (S.scan 0 pieces.flatten).2)) ?_ ?_ pieces
  · simp [feed]
  · rintro pieces piece ⟨hout, hrun⟩
    have hsplit := S.scan_append 0 pieces.flatten piece
    rw [Nat.zero_add] at hsplit
    have hle := (S.scan_suffix 0 pieces.flatten).length_le
    have hle' := (S.scan_suffix (pieces.flatten.length - (S.scan 0 pieces.flatten).2.length)
      ((S.scan 0 pieces.flatten).2 ++ piece)).length_le
    rw [hrun, hout, List.flatten_append, List.flatten_singleton, hsplit]
    refine ⟨rfl, ?_⟩
    simp only [feed, Prod.mk.injEq, and_true]
    rw [List.length_append] at hle' ⊢
    rw [List.length_append]
    omega

theorem outputs_feed (pieces : List (List α)) :
    S.feed.outputs pieces = (S.scan 0 pieces.flatten).1 := (S.feed_eq_scan pieces).1

theorem run_feed (pieces : List (List α)) :
    S.feed.run pieces = (pieces.flatten.length - (S.scan 0 pieces.flatten).2.length,
      (S.scan 0 pieces.flatten).2) := (S.feed_eq_scan pieces).2

end Scanner
end FlightComputer
