import FlightComputer.Utils.Machine
import Mathlib.Data.List.Forall2

/-!
# Dispatching messages

A receiver updates a state that all receivers share, and makes calls to the outside. A
message with several receivers is handled by `inOrder`, one receiver after the other.

`Calls` bounds what a receiver can call in any state; `calls_cons` does so for a message from
its receivers, and `calls_inOrder` for several messages to one. `exists_state_of_mem` is the
other direction: whatever a receiver calls, the message calls.

`Drives` says that a receiver changes a part of the state the way a machine would on some
events. A part that is left alone is driven by no events; what the receivers of a message
do to a part, one after the other, the message does (`drives_cons`).

`Tells` says what can be read off the calls of a receiver where that does not depend on the
state. `Traces` says that the calls can be replayed: the events read off them lead a machine
through what the receiver does to a part of the state.

`Guarantees` bounds both: how the state can change, and what can be called in the state before.

`Alike` compares two receivers, where only a part of the state and some of the calls are looked
at. A receiver that cannot be seen in this way is `Hidden`.
-/

namespace FlightComputer

/-- A receiver over states `σ`, with calls `ω` to the outside. -/
abbrev Receiver (σ ω : Type*) := σ → σ × List ω

namespace Receiver

variable {σ ω : Type*}

/-- Make some calls. -/
def call (out : List ω) : Receiver σ ω := fun s => (s, out)

/-- One receiver, then another. -/
def andThen (a b : Receiver σ ω) : Receiver σ ω := fun s =>
  ((b (a s).1).1, (a s).2 ++ (b (a s).1).2)

/-- All receivers of a message, in the order they are listed in. -/
def inOrder : List (Receiver σ ω) → Receiver σ ω
  | [] => call []
  | a :: as => a.andThen (inOrder as)

/-- Every call meets `P`, in whatever state the receiver is called. -/
def Calls (P : ω → Prop) (a : Receiver σ ω) : Prop := ∀ s, ∀ o ∈ (a s).2, P o

@[simp] theorem inOrder_nil (s : σ) : inOrder ([] : List (Receiver σ ω)) s = (s, []) := rfl

@[simp] theorem inOrder_cons (a : Receiver σ ω) (as : List (Receiver σ ω)) (s : σ) :
    inOrder (a :: as) s = ((inOrder as (a s).1).1, (a s).2 ++ (inOrder as (a s).1).2) := rfl

theorem inOrder_append (as bs : List (Receiver σ ω)) (s : σ) :
    inOrder (as ++ bs) s =
      ((inOrder bs (inOrder as s).1).1, (inOrder as s).2 ++ (inOrder bs (inOrder as s).1).2) := by
  induction as generalizing s with
  | nil => rfl
  | cons a as ih =>
    rw [List.cons_append, inOrder_cons, ih, inOrder_cons, List.append_assoc]

variable {P : ω → Prop}

theorem calls_call {out : List ω} (h : ∀ o ∈ out, P o) : (call out : Receiver σ ω).Calls P :=
  fun _ => h

theorem calls_nil : (inOrder ([] : List (Receiver σ ω))).Calls P := calls_call (by simp)

theorem calls_cons {a : Receiver σ ω} {as : List (Receiver σ ω)} (ha : a.Calls P)
    (has : (inOrder as).Calls P) : (inOrder (a :: as)).Calls P := by
  intro s o ho
  rw [inOrder_cons] at ho
  rcases List.mem_append.mp ho with ho | ho
  · exact ha s o ho
  · exact has _ o ho

theorem calls_singleton {a : Receiver σ ω} (ha : a.Calls P) : (inOrder [a]).Calls P :=
  calls_cons ha calls_nil

/-- One receiver for each of some messages. -/
theorem calls_inOrder {α : Type*} {a : α → Receiver σ ω} {xs : List α}
    (h : ∀ x ∈ xs, (a x).Calls P) : (inOrder (xs.map a)).Calls P := by
  induction xs with
  | nil => exact calls_nil
  | cons x xs ih =>
    apply calls_cons (h x List.mem_cons_self)
    exact ih fun y hy => h y (List.mem_cons_of_mem x hy)

/-- What a receiver of the message calls, in the state it is called in, the message calls. -/
theorem exists_state_of_mem {as : List (Receiver σ ω)} {a : Receiver σ ω} (h : a ∈ as) (s : σ) :
    ∃ s', (a s').2 ⊆ (inOrder as s).2 := by
  induction as generalizing s with
  | nil => cases h
  | cons b as ih =>
    rw [inOrder_cons]
    rcases List.mem_cons.mp h with heq | hmem
    · exact ⟨s, heq ▸ List.subset_append_left _ _⟩
    · obtain ⟨s', hs'⟩ := ih hmem (b s).1
      exact ⟨s', List.Subset.trans hs' (List.subset_append_right _ _)⟩

/-! ## Parts of the state -/

section Drives

variable {τ ε υ : Type*} (M : Machine τ ε υ) (f : σ → τ)

/-- The part `f` of the state takes the steps of a machine on some events. -/
def Drives (es : List ε) (a : Receiver σ ω) : Prop := ∀ s, f (a s).1 = M.after (f s) es

variable {M f}

theorem drives_call (out : List ω) : (call out : Receiver σ ω).Drives M f [] := fun _ => rfl

theorem drives_nil : (inOrder ([] : List (Receiver σ ω))).Drives M f [] := drives_call []

theorem drives_cons {a : Receiver σ ω} {as : List (Receiver σ ω)} {es fs : List ε}
    (ha : a.Drives M f es) (has : (inOrder as).Drives M f fs) :
    (inOrder (a :: as)).Drives M f (es ++ fs) := by
  intro s
  rw [inOrder_cons, M.after_append, ← ha s]
  exact has _

theorem drives_singleton {a : Receiver σ ω} {es : List ε} (ha : a.Drives M f es) :
    (inOrder [a]).Drives M f es := by
  have h := drives_cons ha drives_nil
  rwa [List.append_nil] at h

/-- One receiver for each of some messages. -/
theorem drives_inOrder {α : Type*} {a : α → Receiver σ ω} {es : α → List ε} (xs : List α)
    (h : ∀ x, (a x).Drives M f (es x)) : (inOrder (xs.map a)).Drives M f (xs.flatMap es) := by
  induction xs with
  | nil => exact drives_nil
  | cons x xs ih => exact drives_cons (h x) ih

/-- If none of them touches the part, the messages do not. -/
theorem drives_inOrder_nil {α : Type*} {a : α → Receiver σ ω} (xs : List α)
    (h : ∀ x, (a x).Drives M f []) : (inOrder (xs.map a)).Drives M f [] := by
  have hdrives := drives_inOrder xs h
  rwa [List.flatMap_eq_nil_iff.mpr fun _ _ => rfl] at hdrives

end Drives

/-! ## Reading the calls -/

section Tells

variable {α : Type*} {h : ω → Option α}

/-- What `h` reads off the calls is `xs`, in whatever state the receiver is called. -/
def Tells (h : ω → Option α) (xs : List α) (a : Receiver σ ω) : Prop :=
  ∀ s, (a s).2.filterMap h = xs

theorem tells_call (out : List ω) : (call out : Receiver σ ω).Tells h (out.filterMap h) :=
  fun _ => rfl

theorem tells_nil : (inOrder ([] : List (Receiver σ ω))).Tells h [] := tells_call []

theorem tells_cons {a : Receiver σ ω} {as : List (Receiver σ ω)} {xs ys : List α}
    (ha : a.Tells h xs) (has : (inOrder as).Tells h ys) : (inOrder (a :: as)).Tells h (xs ++ ys) := by
  intro s
  rw [inOrder_cons, List.filterMap_append, ha s, has]

theorem tells_singleton {a : Receiver σ ω} {xs : List α} (ha : a.Tells h xs) :
    (inOrder [a]).Tells h xs := by
  have htells := tells_cons ha tells_nil
  rwa [List.append_nil] at htells

/-- One receiver for each of some messages. -/
theorem tells_inOrder {β : Type*} {a : β → Receiver σ ω} {xs : β → List α} (bs : List β)
    (hb : ∀ b ∈ bs, (a b).Tells h (xs b)) : (inOrder (bs.map a)).Tells h (bs.flatMap xs) := by
  induction bs with
  | nil => exact tells_nil
  | cons b bs ih =>
    exact tells_cons (hb b List.mem_cons_self) (ih fun c hc => hb c (List.mem_cons_of_mem b hc))

/-- A receiver that makes no call `h` can read. -/
theorem tells_nil_of_calls {a : Receiver σ ω} (ha : a.Calls fun o => h o = none) :
    a.Tells h [] := fun s => List.filterMap_eq_nil_iff.mpr (ha s)

end Tells

/-! ## Replaying the calls -/

section Traces

variable {τ δ υ : Type*} (N : Machine τ δ υ) (f : σ → τ) (g : ω → Option δ) (h : ω → Option υ)

/-- The events `g` reads off the calls take the part `f` through what the receiver does to it,
and cause the calls `h` reads. -/
def Traces (a : Receiver σ ω) : Prop := ∀ s,
  f (a s).1 = N.after (f s) ((a s).2.filterMap g) ∧
    (a s).2.filterMap h = N.emits (f s) ((a s).2.filterMap g)

variable {N f g h}

/-- Calls that are none of the machine's business. -/
theorem traces_call {out : List ω} (hg : ∀ o ∈ out, g o = none) (hh : ∀ o ∈ out, h o = none) :
    (call out : Receiver σ ω).Traces N f g h := by
  intro s
  show f s = N.after (f s) (out.filterMap g) ∧ out.filterMap h = N.emits (f s) (out.filterMap g)
  rw [List.filterMap_eq_nil_iff.mpr hg, List.filterMap_eq_nil_iff.mpr hh]
  exact ⟨rfl, rfl⟩

/-- A receiver that leaves the part alone and makes no call of the machine's. -/
theorem traces_of_drives_nil {a : Receiver σ ω} (hf : a.Drives N f [])
    (hg : a.Calls fun o => g o = none) (hh : a.Calls fun o => h o = none) :
    a.Traces N f g h := by
  intro s
  rw [List.filterMap_eq_nil_iff.mpr (hg s), List.filterMap_eq_nil_iff.mpr (hh s)]
  exact ⟨hf s, rfl⟩

theorem traces_nil : (inOrder ([] : List (Receiver σ ω))).Traces N f g h :=
  traces_call (by simp) (by simp)

theorem traces_cons {a : Receiver σ ω} {as : List (Receiver σ ω)} (ha : a.Traces N f g h)
    (has : (inOrder as).Traces N f g h) : (inOrder (a :: as)).Traces N f g h := by
  intro s
  obtain ⟨hstate, hcalls⟩ := ha s
  obtain ⟨hstates, hcalls'⟩ := has (a s).1
  rw [inOrder_cons, List.filterMap_append, List.filterMap_append, N.after_append, N.emits_append,
    ← hstate, hcalls, hcalls']
  exact ⟨hstates, rfl⟩

theorem traces_singleton {a : Receiver σ ω} (ha : a.Traces N f g h) :
    (inOrder [a]).Traces N f g h := traces_cons ha traces_nil

/-- One receiver for each of some messages. -/
theorem traces_inOrder {β : Type*} {a : β → Receiver σ ω} {bs : List β}
    (hb : ∀ b ∈ bs, (a b).Traces N f g h) : (inOrder (bs.map a)).Traces N f g h := by
  induction bs with
  | nil => exact traces_nil
  | cons b bs ih =>
    exact traces_cons (hb b List.mem_cons_self) (ih fun c hc => hb c (List.mem_cons_of_mem b hc))

end Traces

/-! ## Guarantees -/

section Guarantees

/-- The state changes by `T`, and every call meets `P`, in the state before. -/
def Guarantees (T : σ → σ → Prop) (P : σ → ω → Prop) (a : Receiver σ ω) : Prop := ∀ s,
  T s (a s).1 ∧ ∀ o ∈ (a s).2, P s o

/-- Guarantees that one receiver after another gives if each does. -/
structure Composable (T : σ → σ → Prop) (P : σ → ω → Prop) : Prop where
  refl : ∀ s, T s s
  trans : ∀ {s s' s''}, T s s' → T s' s'' → T s s''
  back : ∀ {s s' o}, T s s' → P s' o → P s o

variable {T : σ → σ → Prop} {P : σ → ω → Prop}

theorem guarantees_nil (h : Composable T P) :
    (inOrder ([] : List (Receiver σ ω))).Guarantees T P :=
  fun s => ⟨h.refl s, fun _ ho => by cases ho⟩

theorem guarantees_cons (h : Composable T P) {a : Receiver σ ω} {as : List (Receiver σ ω)}
    (ha : a.Guarantees T P) (has : (inOrder as).Guarantees T P) :
    (inOrder (a :: as)).Guarantees T P := by
  intro s
  obtain ⟨hchange, hcalls⟩ := ha s
  obtain ⟨hchange', hcalls'⟩ := has (a s).1
  rw [inOrder_cons]
  refine ⟨h.trans hchange hchange', fun o ho => ?_⟩
  rcases List.mem_append.mp ho with ho | ho
  · exact hcalls o ho
  · exact h.back hchange (hcalls' o ho)

theorem guarantees_singleton (h : Composable T P) {a : Receiver σ ω} (ha : a.Guarantees T P) :
    (inOrder [a]).Guarantees T P := guarantees_cons h ha (guarantees_nil h)

/-- One receiver for each of some messages. -/
theorem guarantees_inOrder (h : Composable T P) {α : Type*} {a : α → Receiver σ ω} {xs : List α}
    (ha : ∀ x ∈ xs, (a x).Guarantees T P) : (inOrder (xs.map a)).Guarantees T P := by
  induction xs with
  | nil => exact guarantees_nil h
  | cons x xs ih =>
    exact guarantees_cons h (ha x List.mem_cons_self)
      (ih fun y hy => ha y (List.mem_cons_of_mem x hy))

end Guarantees

/-! ## Receivers that look alike -/

section Alike

variable {τ α β : Type*} (f : σ → τ) (h : ω → Option α)

/-- Called in states with the same part `f`, two receivers leave the same part behind and make the
same calls, as far as `h` reads them. -/
def Alike (a b : Receiver σ ω) : Prop := ∀ s t, f s = f t →
  f (a s).1 = f (b t).1 ∧ (a s).2.filterMap h = (b t).2.filterMap h

/-- The receiver leaves the part alone, and makes no call that `h` can read. -/
abbrev Hidden (a : Receiver σ ω) : Prop :=
  a.Guarantees (fun s s' => f s' = f s) fun _ o => h o = none

variable {f h}

theorem hidden_composable : Composable (fun s s' : σ => f s' = f s) fun _ o => h o = none where
  refl := fun _ => rfl
  trans := fun h h' => h'.trans h
  back := fun _ => id

theorem Hidden.reads {a : Receiver σ ω} (ha : a.Hidden f h) (s : σ) :
    f (a s).1 = f s ∧ (a s).2.filterMap h = [] :=
  ⟨(ha s).1, List.filterMap_eq_nil_iff.mpr (ha s).2⟩

theorem alike_of_hidden {a b : Receiver σ ω} (ha : a.Hidden f h) (hb : b.Hidden f h) :
    Alike f h a b := by
  intro s t hst
  obtain ⟨hs, hcalls⟩ := ha.reads s
  obtain ⟨ht, hcalls'⟩ := hb.reads t
  rw [hs, ht, hcalls, hcalls']
  exact ⟨hst, rfl⟩

theorem alike_call {out out' : List ω} (hout : out.filterMap h = out'.filterMap h) :
    Alike f h (call out) (call out') := fun _ _ hst => ⟨hst, hout⟩

theorem alike_nil : Alike f h (inOrder ([] : List (Receiver σ ω))) (inOrder []) := alike_call rfl

theorem alike_cons {a b : Receiver σ ω} {as bs : List (Receiver σ ω)} (ha : Alike f h a b)
    (has : Alike f h (inOrder as) (inOrder bs)) :
    Alike f h (inOrder (a :: as)) (inOrder (b :: bs)) := by
  intro s t hst
  obtain ⟨hstate, hcalls⟩ := ha s t hst
  obtain ⟨hstates, hcalls'⟩ := has _ _ hstate
  rw [inOrder_cons, inOrder_cons, List.filterMap_append, List.filterMap_append, hcalls, hcalls']
  exact ⟨hstates, rfl⟩

theorem alike_singleton {a b : Receiver σ ω} (ha : Alike f h a b) :
    Alike f h (inOrder [a]) (inOrder [b]) := alike_cons ha alike_nil

/-- One receiver for each of some messages. -/
theorem alike_inOrder {γ : Type*} {a : β → Receiver σ ω} {b : γ → Receiver σ ω} {xs : List β}
    {ys : List γ} (hab : List.Forall₂ (fun x y => Alike f h (a x) (b y)) xs ys) :
    Alike f h (inOrder (xs.map a)) (inOrder (ys.map b)) := by
  induction hab with
  | nil => exact alike_nil
  | cons hxy _ ih => exact alike_cons hxy ih

/-- A call into a module: it takes a step on its own state `g`, and makes calls that are passed on. -/
theorem alike_module {ρ : Type*} {g : σ → ρ} {u : ρ → σ → σ} {m : ρ → ρ × List β}
    {a b : β → Receiver σ ω} (hg : ∀ {s t}, f s = f t → g s = g t)
    (hu : ∀ r {s t}, f s = f t → f (u r s) = f (u r t)) (hab : ∀ x, Alike f h (a x) (b x)) :
    Alike f h (fun s => inOrder ((m (g s)).2.map a) (u (m (g s)).1 s))
      (fun s => inOrder ((m (g s)).2.map b) (u (m (g s)).1 s)) := by
  intro s t hst
  have hcalls : Alike f h (inOrder ((m (g t)).2.map a)) (inOrder ((m (g t)).2.map b)) :=
    alike_inOrder (List.forall₂_same.mpr fun x _ => hab x)
  show f (inOrder ((m (g s)).2.map a) (u (m (g s)).1 s)).1 = _ ∧
    (inOrder ((m (g s)).2.map a) (u (m (g s)).1 s)).2.filterMap h = _
  rw [hg hst]
  exact hcalls _ _ (hu _ hst)

end Alike

end Receiver
end FlightComputer
