import Mathlib.Data.List.Basic
import Mathlib.Data.List.Induction

/-!
# Event-driven machines

A program that waits for events, and answers each one by updating its state and by making
calls to the outside, in order. `Machine` is such a program, `run` the state a list of events
leaves it in and `outputs` everything it has called by then.

Three proof rules carry the developments over it:

* `run_induction`, for a property that relates the whole history, the state it led to and
  the calls made on the way;
* `run_invariant`, for one that leaves the calls out;
* `forall_mem_emits_iff`, for a property of every single call.

`Along` says that every step of a run meets a condition, in the state the step starts from.
-/

namespace FlightComputer

/-- A deterministic program driven by events `ε`, with states `σ` and outgoing calls `ω`. -/
structure Machine (σ ε ω : Type*) where
  init : σ
  step : σ → ε → σ × List ω

namespace Machine

variable {σ ε ω : Type*} (M : Machine σ ε ω)

/-! ## Runs -/

/-- The state after the events, from a given state. -/
def after : σ → List ε → σ
  | s, [] => s
  | s, e :: es => after (M.step s e).1 es

/-- The calls made while handling the events, from a given state. -/
def emits : σ → List ε → List ω
  | _, [] => []
  | s, e :: es => (M.step s e).2 ++ emits (M.step s e).1 es

/-- The state a list of events leads to. -/
def run (es : List ε) : σ := M.after M.init es

/-- The calls made over a list of events. -/
def outputs (es : List ε) : List ω := M.emits M.init es

@[simp] theorem after_nil (s : σ) : M.after s [] = s := rfl

@[simp] theorem after_cons (s : σ) (e : ε) (es : List ε) :
    M.after s (e :: es) = M.after (M.step s e).1 es := rfl

@[simp] theorem emits_nil (s : σ) : M.emits s [] = [] := rfl

@[simp] theorem emits_cons (s : σ) (e : ε) (es : List ε) :
    M.emits s (e :: es) = (M.step s e).2 ++ M.emits (M.step s e).1 es := rfl

theorem after_append (s : σ) (es fs : List ε) :
    M.after s (es ++ fs) = M.after (M.after s es) fs := by
  induction es generalizing s with
  | nil => rfl
  | cons e es ih => exact ih _

theorem emits_append (s : σ) (es fs : List ε) :
    M.emits s (es ++ fs) = M.emits s es ++ M.emits (M.after s es) fs := by
  induction es generalizing s with
  | nil => rfl
  | cons e es ih => simp only [List.cons_append, emits_cons, after_cons, ih, List.append_assoc]

@[simp] theorem run_nil : M.run [] = M.init := rfl

@[simp] theorem outputs_nil : M.outputs [] = [] := rfl

theorem run_append (es fs : List ε) : M.run (es ++ fs) = M.after (M.run es) fs :=
  M.after_append _ _ _

theorem outputs_append (es fs : List ε) :
    M.outputs (es ++ fs) = M.outputs es ++ M.emits (M.run es) fs :=
  M.emits_append _ _ _

theorem run_snoc (es : List ε) (e : ε) : M.run (es ++ [e]) = (M.step (M.run es) e).1 :=
  M.run_append es [e]

theorem outputs_snoc (es : List ε) (e : ε) :
    M.outputs (es ++ [e]) = M.outputs es ++ (M.step (M.run es) e).2 := by
  rw [outputs_append, emits_cons, emits_nil, List.append_nil]

/-! ## Induction over the history -/

/-- A property of history, state and calls that one more event keeps, holds of every run. -/
theorem run_induction {P : List ε → σ → List ω → Prop} (init : P [] M.init [])
    (step : ∀ es e, P es (M.run es) (M.outputs es) →
      P (es ++ [e]) (M.step (M.run es) e).1 (M.outputs es ++ (M.step (M.run es) e).2))
    (es : List ε) : P es (M.run es) (M.outputs es) := by
  induction es using List.reverseRecOn with
  | nil => exact init
  | append_singleton es e ih =>
    rw [run_snoc, outputs_snoc]
    exact step es e ih

/-- A property of history and state that one more event keeps, holds of every run. -/
theorem run_invariant {P : List ε → σ → Prop} (init : P [] M.init)
    (step : ∀ es e, P es (M.run es) → P (es ++ [e]) (M.step (M.run es) e).1)
    (es : List ε) : P es (M.run es) :=
  M.run_induction (P := fun es s _ => P es s) init step es

/-! ## Conditions along a run -/

/-- Every step of the run from `s` meets `Q`, in the state it starts from. -/
def Along (Q : σ → ε → Prop) : σ → List ε → Prop
  | _, [] => True
  | s, e :: es => Q s e ∧ Along Q (M.step s e).1 es

variable {M} {Q : σ → ε → Prop}

@[simp] theorem along_nil (s : σ) : M.Along Q s [] := trivial

@[simp] theorem along_cons (s : σ) (e : ε) (es : List ε) :
    M.Along Q s (e :: es) ↔ Q s e ∧ M.Along Q (M.step s e).1 es := Iff.rfl

theorem along_append (s : σ) (es fs : List ε) :
    M.Along Q s (es ++ fs) ↔ M.Along Q s es ∧ M.Along Q (M.after s es) fs := by
  induction es generalizing s with
  | nil => simp
  | cons e es ih => simp only [List.cons_append, along_cons, after_cons, ih, and_assoc]

/-- A condition holds along a run exactly when it holds at every split of the run. -/
theorem along_iff (s : σ) (es : List ε) :
    M.Along Q s es ↔ ∀ pre e post, es = pre ++ e :: post → Q (M.after s pre) e := by
  constructor
  · rintro h pre e post rfl
    rw [along_append, along_cons] at h
    exact h.2.1
  · intro h
    induction es generalizing s with
    | nil => trivial
    | cons e es ih =>
      refine ⟨h [] e es rfl, ih _ fun pre f post hes => ?_⟩
      rw [← M.after_cons]
      exact h (e :: pre) f post (by rw [hes, List.cons_append])

theorem along_congr {R : σ → ε → Prop} {s : σ} {es : List ε} (h : ∀ s, ∀ e ∈ es, Q s e ↔ R s e) :
    M.Along Q s es ↔ M.Along R s es := by
  induction es generalizing s with
  | nil => exact Iff.rfl
  | cons e es ih =>
    rw [along_cons, along_cons, h s e (by simp),
      ih fun s' e' he' => h s' e' (List.mem_cons_of_mem e he')]

/-- A property of all calls of a run is one of the calls of every step. -/
theorem forall_mem_emits_iff {R : ω → Prop} (s : σ) (es : List ε) :
    (∀ o ∈ M.emits s es, R o) ↔ M.Along (fun s e => ∀ o ∈ (M.step s e).2, R o) s es := by
  induction es generalizing s with
  | nil => simp
  | cons e es ih => rw [emits_cons, along_cons, List.forall_mem_append, ih]

theorem forall_mem_outputs_iff {R : ω → Prop} (es : List ε) :
    (∀ o ∈ M.outputs es, R o) ↔
      ∀ pre e post, es = pre ++ e :: post → ∀ o ∈ (M.step (M.run pre) e).2, R o := by
  rw [outputs, forall_mem_emits_iff, along_iff]
  rfl

end Machine
end FlightComputer
