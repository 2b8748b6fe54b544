import Mathlib.Data.List.Basic

/-!
# Reactive machines

A deterministic machine answers each input with an output and a next state,
`step : σ → ι → σ × ο`. This module owns the run vocabulary that depends on nothing
but `step`:

* **`run`** — the state after a list of inputs.
* **`trace`** — every `Transition` of the run, with the state it starts in, so that a
  property of one answer can be stated about each answer of a whole run.
* **`forall_mem_trace_iff`** — the bridge between the two: a transition of the trace is an
  input with the inputs before it.
* **`run_invariant`**, **`Simulation.run`** — the two induction rules. The first carries a
  predicate along a run, the second a relation to the run of an abstract machine that
  reads the same inputs and has no outputs.
* **`Simulation.forall_mem_trace_iff`** — the rule for a property of answers that related
  states decide alike: on a whole run it is a condition on the abstract run alone.
-/

namespace Reactive

universe u v w x

variable {σ : Type u} {ι : Type v} {ο : Type w} {α : Type x}

/-- One answer of the machine: the state it was in, the input and the output. -/
structure Transition (σ : Type u) (ι : Type v) (ο : Type w) where
  before : σ
  input : ι
  output : ο

/-- The answer `step` gives to an input. -/
def Transition.of (step : σ → ι → σ × ο) (s : σ) (i : ι) : Transition σ ι ο :=
  ⟨s, i, (step s i).2⟩

/-- The state after a list of inputs. -/
def run (step : σ → ι → σ × ο) : σ → List ι → σ
  | s, [] => s
  | s, i :: is => run step (step s i).1 is

/-- The answers to a list of inputs, in order. -/
def trace (step : σ → ι → σ × ο) : σ → List ι → List (Transition σ ι ο)
  | _, [] => []
  | s, i :: is => Transition.of step s i :: trace step (step s i).1 is

section Runs

variable (step : σ → ι → σ × ο)

@[simp] theorem trace_nil (s : σ) : trace step s [] = [] := rfl

@[simp] theorem trace_cons (s : σ) (i : ι) (is : List ι) :
    trace step s (i :: is) = Transition.of step s i :: trace step (step s i).1 is := rfl

@[simp] theorem Transition.of_input (s : σ) (i : ι) : (Transition.of step s i).input = i := rfl

@[simp] theorem Transition.of_output (s : σ) (i : ι) :
    (Transition.of step s i).output = (step s i).2 := rfl

/-- A transition belongs to the trace exactly when its input occurs in the run and it
starts where the inputs before that occurrence lead. -/
theorem mem_trace_iff (s : σ) (is : List ι) (t : Transition σ ι ο) :
    t ∈ trace step s is ↔
      ∃ pre i post, is = pre ++ i :: post ∧ t = Transition.of step (run step s pre) i := by
  induction is generalizing s with
  | nil => simp
  | cons j is ih =>
    rw [trace_cons, List.mem_cons, ih]
    constructor
    · rintro (rfl | ⟨pre, i, post, rfl, rfl⟩)
      · exact ⟨[], j, is, rfl, rfl⟩
      · exact ⟨j :: pre, i, post, rfl, rfl⟩
    · rintro ⟨pre, i, post, hsplit, rfl⟩
      -- the transition is the first one, or one of the rest of the run
      cases pre with
      | nil =>
        obtain ⟨rfl, rfl⟩ := List.cons.inj hsplit
        exact Or.inl rfl
      | cons k pre =>
        obtain ⟨rfl, htail⟩ := List.cons.inj hsplit
        exact Or.inr ⟨pre, i, post, htail, rfl⟩

/-- A property of all answers of a run, read at each input with the inputs before it. -/
theorem forall_mem_trace_iff (s : σ) (is : List ι) (P : Transition σ ι ο → Prop) :
    (∀ t ∈ trace step s is, P t) ↔
      ∀ pre i post, is = pre ++ i :: post → P (Transition.of step (run step s pre) i) := by
  constructor
  · intro h pre i post hsplit
    exact h _ ((mem_trace_iff step s is _).mpr ⟨pre, i, post, hsplit, rfl⟩)
  · intro h t ht
    obtain ⟨pre, i, post, hsplit, rfl⟩ := (mem_trace_iff step s is t).mp ht
    exact h pre i post hsplit

/-- **Invariant rule.** What every step preserves, every run preserves. -/
theorem run_invariant {P : σ → Prop} (hstep : ∀ s i, P s → P (step s i).1)
    {s : σ} (hs : P s) (is : List ι) : P (run step s is) := by
  induction is generalizing s with
  | nil => exact hs
  | cons i is ih => exact ih (hstep s i hs)

end Runs

/-! ## Simulation by an abstract machine

`astep` reads the same inputs as `step` but keeps only what a property needs. Relating the
two once, step by step, replaces the concrete state by the abstract one in every run. -/

/-- `R` relates each state of `step` to a state of `astep`, and both move together. -/
structure Simulation (step : σ → ι → σ × ο) (astep : α → ι → α) (R : σ → α → Prop) : Prop where
  preserved : ∀ {s a}, R s a → ∀ i, R (step s i).1 (astep a i)

section Simulations

variable {step : σ → ι → σ × ο} {astep : α → ι → α} {R : σ → α → Prop}

/-- **Simulation rule.** Related states stay related along every run. -/
theorem Simulation.run (sim : Simulation step astep R) {s : σ} {a : α} (hR : R s a)
    (is : List ι) : R (Reactive.run step s is) (is.foldl astep a) := by
  induction is generalizing s a with
  | nil => exact hR
  | cons i is ih => exact ih (sim.preserved hR i)

/-- **Trace rule.** Where an answer satisfies `P` exactly when the related abstract state and
the input satisfy `Q`, all answers of a run satisfy `P` exactly when `Q` holds at each of
its inputs, in the abstract state the inputs before it lead to. -/
theorem Simulation.forall_mem_trace_iff (sim : Simulation step astep R) {s : σ} {a : α}
    (hR : R s a) {P : Transition σ ι ο → Prop} {Q : α → ι → Prop}
    (hPQ : ∀ {s a}, R s a → ∀ i, P (Transition.of step s i) ↔ Q a i) (is : List ι) :
    (∀ t ∈ trace step s is, P t) ↔
      ∀ pre i post, is = pre ++ i :: post → Q (pre.foldl astep a) i := by
  rw [Reactive.forall_mem_trace_iff]
  constructor
  · intro h pre i post hsplit
    have hrelated := sim.run hR pre
    exact (hPQ hrelated i).mp (h pre i post hsplit)
  · intro h pre i post hsplit
    have hrelated := sim.run hR pre
    exact (hPQ hrelated i).mpr (h pre i post hsplit)

end Simulations

/-- A step that some inputs leave alone, run over such inputs only, changes nothing. -/
theorem foldl_eq_self_of_forall {astep : α → ι → α} {a : α} {is : List ι}
    (h : ∀ i ∈ is, astep a i = a) : is.foldl astep a = a := by
  induction is with
  | nil => rfl
  | cons i is ih =>
    rw [List.foldl_cons, h i List.mem_cons_self]
    exact ih fun j hj => h j (List.mem_cons_of_mem i hj)

end Reactive
