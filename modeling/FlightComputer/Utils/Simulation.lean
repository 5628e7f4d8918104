import FlightComputer.Utils.Machine
import Mathlib.Data.List.Forall2

/-!
# Machines next to each other

Ways in which the runs of two machines are tied together:

* `Projects`: seen through a part of its state, one machine takes the steps of the other on
  events it makes up itself (`observed`), and makes its calls;
* `cascade`: one machine handles the calls of the other, and answers with its own;
* `expand`: one machine makes the calls of the other, each spelled out as some others;
* `LockStep`: on related events, two machines keep related states and make related calls;
* `Unwinds`: some events make no difference, so a run without them is as good.

Each is a condition on one step, and each comes with its rule for runs.
-/

namespace FlightComputer
namespace Machine

variable {σ ε ω τ δ υ : Type*}

/-! ## A part of a machine -/

section Projects

variable (M : Machine σ ε ω) (N : Machine τ δ υ)

/-- The events that `g` makes of those of a run. -/
def observedFrom (g : σ → ε → List δ) : σ → List ε → List δ
  | _, [] => []
  | s, e :: es => g s e ++ observedFrom g (M.step s e).1 es

def observed (g : σ → ε → List δ) (es : List ε) : List δ := M.observedFrom g M.init es

/-- The part `f` of the state takes the steps of `N` on the events `g` makes, and what `h` reads
of the calls is what `N` calls. -/
structure Projects (f : σ → τ) (g : σ → ε → List δ) (h : ω → Option υ) : Prop where
  init : f M.init = N.init
  after : ∀ s e, f (M.step s e).1 = N.after (f s) (g s e)
  emits : ∀ s e, (M.step s e).2.filterMap h = N.emits (f s) (g s e)

variable {M} {g : σ → ε → List δ}

theorem observedFrom_append (s : σ) (es fs : List ε) :
    M.observedFrom g s (es ++ fs) =
      M.observedFrom g s es ++ M.observedFrom g (M.after s es) fs := by
  induction es generalizing s with
  | nil => rfl
  | cons e es ih => simp only [List.cons_append, observedFrom, after_cons, ih, List.append_assoc]

theorem observed_append (es fs : List ε) :
    M.observed g (es ++ fs) = M.observed g es ++ M.observedFrom g (M.run es) fs :=
  observedFrom_append _ _ _

theorem observed_snoc (es : List ε) (e : ε) :
    M.observed g (es ++ [e]) = M.observed g es ++ g (M.run es) e := by
  rw [observed_append, observedFrom, observedFrom, List.append_nil]

/-- Events that do not depend on the state. -/
theorem observed_const (k : ε → Option δ) (es : List ε) :
    M.observed (fun _ e => (k e).toList) es = es.filterMap k := by
  induction es using List.reverseRecOn with
  | nil => rfl
  | append_singleton es e ih =>
    rw [observed_snoc, ih, List.filterMap_append]
    cases hk : k e with
    | none => rw [List.filterMap_cons_none hk]; rfl
    | some d => rw [List.filterMap_cons_some hk]; rfl

/-- Events that are read off the calls. -/
theorem observed_calls (k : ω → Option δ) (es : List ε) :
    M.observed (fun s e => (M.step s e).2.filterMap k) es = (M.outputs es).filterMap k := by
  induction es using List.reverseRecOn with
  | nil => rfl
  | append_singleton es e ih => rw [observed_snoc, ih, outputs_snoc, List.filterMap_append]

variable {N} {f : σ → τ} {h : ω → Option υ}

/-- **Runs of a part.** -/
theorem Projects.runs (hN : M.Projects N f g h) (es : List ε) :
    f (M.run es) = N.run (M.observed g es) ∧
      (M.outputs es).filterMap h = N.outputs (M.observed g es) := by
  induction es using List.reverseRecOn with
  | nil => exact ⟨hN.init, rfl⟩
  | append_singleton es e ih =>
    rw [observed_snoc, run_snoc, outputs_snoc, N.run_append, N.outputs_append, hN.after,
      List.filterMap_append, ih.1, ih.2, hN.emits, ih.1]
    exact ⟨rfl, rfl⟩

end Projects

/-! ## One machine behind another -/

section cascade

/-- `B` handles the calls of `A`, in order, before the next event. -/
def cascade (A : Machine σ ε ω) (B : Machine τ ω υ) : Machine (σ × τ) ε υ where
  init := (A.init, B.init)
  step := fun s e =>
    (((A.step s.1 e).1, B.after s.2 (A.step s.1 e).2), B.emits s.2 (A.step s.1 e).2)

variable (A : Machine σ ε ω) (B : Machine τ ω υ)

theorem run_cascade (es : List ε) : (A.cascade B).run es = (A.run es, B.run (A.outputs es)) := by
  induction es using List.reverseRecOn with
  | nil => rfl
  | append_singleton es e ih =>
    rw [run_snoc, ih, A.run_snoc, A.outputs_snoc, B.run_append]
    rfl

theorem outputs_cascade (es : List ε) : (A.cascade B).outputs es = B.outputs (A.outputs es) := by
  induction es using List.reverseRecOn with
  | nil => rfl
  | append_singleton es e ih =>
    rw [outputs_snoc, run_cascade, ih, A.outputs_snoc, B.outputs_append]
    rfl

end cascade

/-! ## The calls of a machine, spelled out -/

section expand

/-- The same machine, with each call spelled out as some others. -/
def expand (M : Machine σ ε ω) (w : ω → List υ) : Machine σ ε υ where
  init := M.init
  step := fun s e => ((M.step s e).1, (M.step s e).2.flatMap w)

variable (M : Machine σ ε ω) (w : ω → List υ)

theorem after_expand (s : σ) (es : List ε) : (M.expand w).after s es = M.after s es := by
  induction es generalizing s with
  | nil => rfl
  | cons e es ih => exact ih _

theorem emits_expand (s : σ) (es : List ε) :
    (M.expand w).emits s es = (M.emits s es).flatMap w := by
  induction es generalizing s with
  | nil => rfl
  | cons e es ih =>
    rw [emits_cons, emits_cons, List.flatMap_append, ← ih]
    rfl

end expand

/-! ## Two machines in lock-step -/

section LockStep

/-- Related events keep the states related, and the calls they cause are related one by one. -/
structure LockStep (M : Machine σ ε ω) (N : Machine τ δ υ) (R : σ → τ → Prop)
    (E : ε → δ → Prop) (O : ω → υ → Prop) : Prop where
  init : R M.init N.init
  step : ∀ {s t e d}, R s t → E e d →
    R (M.step s e).1 (N.step t d).1 ∧ List.Forall₂ O (M.step s e).2 (N.step t d).2

variable {M : Machine σ ε ω} {N : Machine τ δ υ} {R : σ → τ → Prop} {E : ε → δ → Prop}
  {O : ω → υ → Prop}

theorem LockStep.from (h : M.LockStep N R E O) {es : List ε} {ds : List δ}
    (hes : List.Forall₂ E es ds) {s : σ} {t : τ} (hst : R s t) :
    R (M.after s es) (N.after t ds) ∧ List.Forall₂ O (M.emits s es) (N.emits t ds) := by
  induction hes generalizing s t with
  | nil => exact ⟨hst, .nil⟩
  | cons hed _ ih =>
    obtain ⟨hstate, hcalls⟩ := h.step hst hed
    obtain ⟨hstates, hcalls'⟩ := ih hstate
    exact ⟨hstates, List.rel_append hcalls hcalls'⟩

/-- **Runs in lock-step.** -/
theorem LockStep.runs (h : M.LockStep N R E O) {es : List ε} {ds : List δ}
    (hes : List.Forall₂ E es ds) :
    R (M.run es) (N.run ds) ∧ List.Forall₂ O (M.outputs es) (N.outputs ds) :=
  h.from hes h.init

end LockStep

/-! ## Events that make no difference -/

section Unwinds

variable {α : Type*}

/-- The events in `keep` lead from related states to related states, with the same calls as far as
they are read. The others are not noticed: the first machine takes them alone, and the states stay
related. -/
structure Unwinds (M : Machine σ ε ω) (N : Machine τ ε υ) (R : σ → τ → Prop) (keep : ε → Bool)
    (h : ω → Option α) (h' : υ → Option α) : Prop where
  init : R M.init N.init
  keeps : ∀ {s t e}, R s t → keep e = true →
    R (M.step s e).1 (N.step t e).1 ∧ (M.step s e).2.filterMap h = (N.step t e).2.filterMap h'
  skips : ∀ {s t e}, R s t → keep e = false →
    R (M.step s e).1 t ∧ (M.step s e).2.filterMap h = []

variable {M : Machine σ ε ω} {N : Machine τ ε υ} {R : σ → τ → Prop} {keep : ε → Bool}
  {h : ω → Option α} {h' : υ → Option α}

/-- **Runs without the events that make no difference.** -/
theorem Unwinds.runs (hMN : M.Unwinds N R keep h h') (es : List ε) :
    R (M.run es) (N.run (es.filter keep)) ∧
      (M.outputs es).filterMap h = (N.outputs (es.filter keep)).filterMap h' := by
  induction es using List.reverseRecOn with
  | nil => exact ⟨hMN.init, rfl⟩
  | append_singleton es e ih =>
    obtain ⟨hstate, hcalls⟩ := ih
    rw [run_snoc, outputs_snoc, List.filter_append, List.filterMap_append, hcalls]
    cases hkeep : keep e with
    | true =>
      obtain ⟨hstate', hcalls'⟩ := hMN.keeps hstate hkeep
      rw [List.filter_cons_of_pos hkeep, List.filter_nil, run_snoc, outputs_snoc,
        List.filterMap_append, hcalls']
      exact ⟨hstate', rfl⟩
    | false =>
      obtain ⟨hstate', hcalls'⟩ := hMN.skips hstate hkeep
      rw [List.filter_cons_of_neg (by simp [hkeep]), List.filter_nil, List.append_nil, hcalls',
        List.append_nil]
      exact ⟨hstate', rfl⟩

/-- Conditions on the events that are kept carry over. -/
theorem Unwinds.along (hMN : M.Unwinds N R keep h h') {Q : σ → ε → Prop} {Q' : τ → ε → Prop}
    (hQ : ∀ {s t e}, R s t → keep e = true → Q s e → Q' t e) {es : List ε}
    (hes : M.Along Q M.init es) : N.Along Q' N.init (es.filter keep) := by
  induction es using List.reverseRecOn with
  | nil => trivial
  | append_singleton es e ih =>
    rw [along_append] at hes
    obtain ⟨hbefore, he, -⟩ := hes
    rw [List.filter_append]
    cases hkeep : keep e with
    | true =>
      rw [List.filter_cons_of_pos hkeep, List.filter_nil, along_append]
      exact ⟨ih hbefore, hQ (hMN.runs es).1 hkeep he, trivial⟩
    | false =>
      rw [List.filter_cons_of_neg (by simp [hkeep]), List.filter_nil, List.append_nil]
      exact ih hbefore

end Unwinds

end Machine
end FlightComputer
