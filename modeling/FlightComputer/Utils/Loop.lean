import Mathlib.Data.Nat.Init
import Mathlib.Logic.Relation

/-!
# Loops

A loop is given by what one pass through it does: from a state it goes on with another state,
or leaves the loop with a result. A pass may also have no value, when it comes to an
operation that is not defined. Nothing here bounds the number of passes; that a loop returns
is a statement.

`Sound.total` is the rule for total correctness: an invariant under which every pass is
defined, and a variant that every pass lowers. `run` executes a loop for so many passes.
-/

namespace FlightComputer

/-- What a pass comes to. -/
inductive Control (σ ρ : Type*) where
  | next (s : σ)
  | stop (r : ρ)
deriving DecidableEq, Repr

/-- A loop over states `σ` that returns a `ρ`. -/
structure Loop (σ ρ : Type*) where
  pass : σ → Option (Control σ ρ)

namespace Loop

variable {σ ρ : Type*} (L : Loop σ ρ)

/-- Some passes lead from one state to the other. -/
def Reaches : σ → σ → Prop := Relation.ReflTransGen fun s s' => L.pass s = some (.next s')

/-- After some passes, all of them defined, the loop is left. -/
def Returns (s : σ) (r : ρ) : Prop := ∃ s', L.Reaches s s' ∧ L.pass s' = some (.stop r)

/-- The loop, given up after so many passes. -/
def run : ℕ → σ → Option ρ
  | 0, _ => none
  | passes + 1, s =>
    match L.pass s with
    | some (.next s') => run passes s'
    | some (.stop r) => some r
    | none => none

variable {L}

theorem Returns.next {s s' : σ} {r : ρ} (h : L.pass s = some (.next s')) (hr : L.Returns s' r) :
    L.Returns s r := by
  obtain ⟨last, hreach, hstop⟩ := hr
  exact ⟨last, .head h hreach, hstop⟩

theorem Returns.stop {s : σ} {r : ρ} (h : L.pass s = some (.stop r)) : L.Returns s r :=
  ⟨s, .refl, h⟩

theorem returns_of_run {passes : ℕ} {s : σ} {r : ρ} (h : L.run passes s = some r) :
    L.Returns s r := by
  induction passes generalizing s with
  | zero => cases h
  | succ passes ih =>
    rw [run] at h
    split at h
    · next s' hpass => exact .next hpass (ih h)
    · next r' hpass =>
      cases h
      exact .stop hpass
    · cases h

/-- A loop returns once. -/
theorem Returns.unique {s : σ} {r r' : ρ} (h : L.Returns s r) (h' : L.Returns s r') : r = r' := by
  obtain ⟨last, hreach, hstop⟩ := h
  induction hreach using Relation.ReflTransGen.head_induction_on with
  | refl =>
    obtain ⟨last', hreach', hstop'⟩ := h'
    rcases hreach'.cases_head with rfl | ⟨s', hnext, -⟩
    · rw [hstop] at hstop'
      cases hstop'
      rfl
    · rw [hstop] at hnext
      cases hnext
  | head hnext hreach ih =>
    apply ih
    obtain ⟨last', hreach', hstop'⟩ := h'
    rcases hreach'.cases_head with rfl | ⟨s', hnext', hrest⟩
    · rw [hnext] at hstop'
      cases hstop'
    · rw [hnext] at hnext'
      cases hnext'
      exact ⟨last', hrest, hstop'⟩

/-! ## Total correctness -/

/-- From every state with `I` a pass is defined, and either goes on with `I` and a lower
variant or leaves the loop with `Q`. -/
def Sound (L : Loop σ ρ) (I : σ → Prop) (variant : σ → ℕ) (Q : ρ → Prop) : Prop :=
  ∀ s, I s → (∃ s', L.pass s = some (.next s') ∧ I s' ∧ variant s' < variant s) ∨
    ∃ r, L.pass s = some (.stop r) ∧ Q r

variable {I : σ → Prop} {variant : σ → ℕ} {Q : ρ → Prop}

theorem Sound.invariant (h : L.Sound I variant Q) {s s' : σ} (hs : I s)
    (hreach : L.Reaches s s') : I s' := by
  induction hreach with
  | refl => exact hs
  | tail hreach hnext ih =>
    rcases h _ ih with ⟨s'', hpass, hI, -⟩ | ⟨r, hpass, -⟩
    · rw [hpass] at hnext
      cases hnext
      exact hI
    · rw [hpass] at hnext
      cases hnext

theorem Sound.exists_returns (h : L.Sound I variant Q) {s : σ} (hs : I s) :
    ∃ r, L.Returns s r := by
  induction hn : variant s using Nat.strong_induction_on generalizing s with
  | h n ih =>
    rcases h s hs with ⟨s', hpass, hI, hlower⟩ | ⟨r, hpass, -⟩
    · obtain ⟨r, hr⟩ := ih _ (hn ▸ hlower) hI rfl
      exact ⟨r, .next hpass hr⟩
    · exact ⟨r, .stop hpass⟩

/-- **Total correctness.** The loop returns, what it returns has `Q`, and in front of every
pass it is in a state with `I`. -/
theorem Sound.total (h : L.Sound I variant Q) {s : σ} (hs : I s) :
    (∃ r, L.Returns s r) ∧ (∀ r, L.Returns s r → Q r) ∧ ∀ s', L.Reaches s s' → I s' := by
  refine ⟨h.exists_returns hs, ?_, fun s' hreach => h.invariant hs hreach⟩
  rintro r ⟨last, hreach, hstop⟩
  rcases h last (h.invariant hs hreach) with ⟨s', hpass, -⟩ | ⟨r', hpass, hQ⟩
  · rw [hpass] at hstop
    cases hstop
  · rw [hpass] at hstop
    cases hstop
    exact hQ

end Loop
end FlightComputer
