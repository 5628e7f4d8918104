import Mathlib.Data.List.TakeWhile

/-!
# Looking a word up in a table

A buffer holds the word that ends at its first terminator, or at its end (`upTo`). A test
that accepts a buffer as a keyword if the buffer is the start of the keyword, or starts with
the keyword and a terminator, finds the right keyword of a table exactly as long as the
buffer is not the start of a keyword and no more (`find_exact_iff`).
-/

namespace FlightComputer

variable {α κ : Type*} [DecidableEq α] (nul : α)

/-- The word a buffer holds. -/
def upTo (a : List α) : List α := a.takeWhile (· ≠ nul)

variable {nul}

theorem upTo_of_notMem {a : List α} (h : nul ∉ a) : upTo nul a = a := by
  unfold upTo
  rw [List.takeWhile_eq_self_iff]
  intro x hx
  have hne : x ≠ nul := by
    intro heq
    exact h (heq ▸ hx)
  simpa using hne

/-- A buffer holds a word if it is the word, or goes on with a terminator. -/
theorem upTo_eq_iff {w : List α} (hw : nul ∉ w) (a : List α) :
    upTo nul a = w ↔ a = w ∨ w ++ [nul] <+: a := by
  induction w generalizing a with
  | nil =>
    cases a with
    | nil => simp [upTo]
    | cons b a =>
      by_cases hb : b = nul
      · simp [upTo, hb]
      · have hb' : nul ≠ b := fun h => hb h.symm
        simp [upTo, hb, hb']
  | cons c w ih =>
    rw [List.mem_cons, not_or] at hw
    have ih' := ih hw.2
    cases a with
    | nil => simp [upTo]
    | cons b a =>
      have hcons : upTo nul (b :: a) = if b = nul then [] else b :: upTo nul a := by
        unfold upTo
        rw [List.takeWhile_cons]
        by_cases hb : b = nul
        · simp [hb]
        · simp [hb]
      rw [hcons, List.cons_append, List.cons_prefix_cons]
      by_cases hbc : b = c
      · subst hbc
        rw [if_neg (Ne.symm hw.1)]
        simp only [List.cons.injEq, true_and]
        exact ih' a
      · have hcb : ¬c = b := fun h => hbc h.symm
        by_cases hb : b = nul
        · have hcnul : ¬c = nul := fun h => hw.1 h.symm
          simp [hb, hcnul, hw.1]
        · simp [hb, hcb, hbc]

/-- **Looking a word up.** A keyword is found exactly when the buffer holds it, and none when
it holds none, if and only if the buffer is not the start of a keyword that it is not. -/
theorem find_exact_iff {table : List κ} {spell : κ → List α} {a : List α} {test : κ → Bool}
    (hnul : ∀ w ∈ table, nul ∉ spell w)
    (hfree : ∀ w ∈ table, ∀ v ∈ table, spell w <+: spell v → w = v)
    (htest : ∀ w ∈ table, test w = true ↔ a <+: spell w ∨ spell w ++ [nul] <+: a) :
    ((∀ w ∈ table, table.find? test = some w ↔ upTo nul a = spell w) ∧
        ((∀ w ∈ table, upTo nul a ≠ spell w) → table.find? test = none)) ↔
      ∀ w ∈ table, ¬(a <+: spell w ∧ a ≠ spell w) := by
  constructor
  · rintro ⟨hfound, -⟩ w hw ⟨hstart, hne⟩
    -- some keyword is found, and the buffer holds it: it is the one the buffer starts
    have hmem : nul ∉ a := fun h => hnul w hw (hstart.subset h)
    have hsome : (table.find? test).isSome = true :=
      List.find?_isSome.mpr ⟨w, hw, (htest w hw).mpr (Or.inl hstart)⟩
    obtain ⟨v, hv⟩ := Option.isSome_iff_exists.mp hsome
    have hvmem : v ∈ table := List.mem_of_find?_eq_some hv
    have hholds := (hfound v hvmem).mp hv
    rw [upTo_of_notMem hmem] at hholds
    have hvw : v = w := hfree v hvmem w hw (hholds ▸ hstart)
    exact hne (hvw ▸ hholds)
  · intro hno
    have hholds : ∀ w ∈ table, test w = true ↔ upTo nul a = spell w := by
      intro w hw
      rw [htest w hw, upTo_eq_iff (hnul w hw)]
      constructor
      · rintro (hstart | hword)
        · exact Or.inl (not_not.mp fun hne => hno w hw ⟨hstart, hne⟩)
        · exact Or.inr hword
      · rintro (heq | hword)
        · exact Or.inl (heq ▸ List.prefix_rfl)
        · exact Or.inr hword
    refine ⟨fun w hw => ⟨fun h => ?_, fun h => ?_⟩, fun h => ?_⟩
    · exact (hholds w hw).mp (List.find?_some h)
    · have hsome : (table.find? test).isSome = true :=
        List.find?_isSome.mpr ⟨w, hw, (hholds w hw).mpr h⟩
      obtain ⟨v, hv⟩ := Option.isSome_iff_exists.mp hsome
      have hvmem : v ∈ table := List.mem_of_find?_eq_some hv
      have hvholds := (hholds v hvmem).mp (List.find?_some hv)
      have hvw : v = w := hfree v hvmem w hw ((hvholds.symm.trans h) ▸ List.prefix_rfl)
      rw [hv, hvw]
    · rw [List.find?_eq_none]
      intro w hw htrue
      exact h w hw ((hholds w hw).mp htrue)

end FlightComputer
