import HybridSample.Reactive.Machine

/-!
# Refinement of reactive machines

Two machines are compared by what an observer makes of their answers. An observer turns each
answer into a list, and the list of a whole run is its log. The abstract machine reads what a
`view` leaves of each input, if it leaves anything.

* **`log`** — what an observer has collected at the end of a run.
* **`Refinement.log_eq`** — the rule: where the concrete machine answers as the abstract one
  does, and says nothing to an input without a view, the two logs are equal.
* **`Refinement.of_simulation`** — a simulation whose states determine the observed answer is
  a refinement of the abstract machine that gives this answer.
* **`log_series`** — the rule for two machines one of which reads what the other answers: the
  second one runs over the log of the first.
-/

namespace Reactive

universe u v w x y z

variable {σ : Type u} {ι : Type v} {ο : Type w} {α : Type x} {π : Type y} {ω : Type z}
  {κ : Type*}

/-! ## Logs -/

/-- All that is observed in a run, in order. -/
def log (step : σ → ι → σ × ο) (observe : ο → List ω) (s : σ) (is : List ι) : List ω :=
  (trace step s is).flatMap fun t => observe t.output

section Logs

variable (step : σ → ι → σ × ο) (observe : ο → List ω)

@[simp] theorem log_nil (s : σ) : log step observe s [] = [] := rfl

@[simp] theorem log_cons (s : σ) (i : ι) (is : List ι) :
    log step observe s (i :: is) = observe (step s i).2 ++ log step observe (step s i).1 is := rfl

/-- A run goes on from where its first half ends. -/
theorem run_append (s : σ) (is js : List ι) :
    run step s (is ++ js) = run step (run step s is) js := by
  induction is generalizing s with
  | nil => rfl
  | cons i is ih => exact ih (step s i).1

theorem run_concat (s : σ) (is : List ι) (i : ι) :
    run step s (is ++ [i]) = (step (run step s is) i).1 :=
  run_append step s is [i]

/-- The log of two halves, the second read where the first one ends. -/
theorem log_append (s : σ) (is js : List ι) :
    log step observe s (is ++ js)
      = log step observe s is ++ log step observe (run step s is) js := by
  induction is generalizing s with
  | nil => rfl
  | cons i is ih =>
    rw [List.cons_append, log_cons, ih, log_cons, List.append_assoc]
    rfl

/-- One more input adds what is observed of its answer. -/
theorem log_concat (s : σ) (is : List ι) (i : ι) :
    log step observe s (is ++ [i])
      = log step observe s is ++ observe (step (run step s is) i).2 := by
  rw [log_append, log_cons, log_nil, List.append_nil]

/-- What every answer shows, a log shows. -/
theorem forall_mem_log {P : ω → Prop} (hanswer : ∀ s i, ∀ w ∈ observe (step s i).2, P w) (s : σ)
    (is : List ι) : ∀ w ∈ log step observe s is, P w := by
  induction is generalizing s with
  | nil => exact fun w hw => absurd hw List.not_mem_nil
  | cons i is ih =>
    intro w hw
    rw [log_cons] at hw
    rcases List.mem_append.mp hw with hfirst | hrest
    · exact hanswer s i w hfirst
    · exact ih (step s i).1 w hrest

theorem log_filter (p : ω → Bool) (s : σ) (is : List ι) :
    (log step observe s is).filter p = log step (fun o => (observe o).filter p) s is := by
  unfold log
  rw [List.filter_flatMap]

theorem log_map {ω' : Type*} (f : ω → ω') (s : σ) (is : List ι) :
    (log step observe s is).map f = log step (fun o => (observe o).map f) s is := by
  unfold log
  rw [List.map_flatMap]

theorem log_filterMap {ω' : Type*} (f : ω → Option ω') (s : σ) (is : List ι) :
    (log step observe s is).filterMap f = log step (fun o => (observe o).filterMap f) s is := by
  unfold log
  rw [List.filterMap_flatMap]

theorem log_flatMap {ω' : Type*} (f : ω → List ω') (s : σ) (is : List ι) :
    (log step observe s is).flatMap f = log step (fun o => (observe o).flatMap f) s is := by
  unfold log
  rw [List.flatMap_assoc]

end Logs

/-! ## The refinement rule -/

/-- Related states stay related. An input with a view is answered as its view is; any other
is read by the concrete machine only, and leaves nothing to observe. -/
structure Refinement (step : σ → ι → σ × ο) (astep : α → κ → α × π) (view : ι → Option κ)
    (observe : ο → List ω) (aobserve : π → List ω) (R : σ → α → Prop) : Prop where
  matched : ∀ {s a}, R s a → ∀ i k, view i = some k →
    R (step s i).1 (astep a k).1 ∧ observe (step s i).2 = aobserve (astep a k).2
  hidden : ∀ {s a}, R s a → ∀ i, view i = none →
    R (step s i).1 a ∧ observe (step s i).2 = []

section Refinements

variable {step : σ → ι → σ × ο} {observe : ο → List ω} {aobserve : π → List ω}
  {R : σ → α → Prop}

/-- **Refinement rule.** The log of a run is the log of the abstract run over what is seen
of it. -/
theorem Refinement.log_eq {astep : α → κ → α × π} {view : ι → Option κ}
    (h : Refinement step astep view observe aobserve R) {s : σ} {a : α} (hR : R s a)
    (is : List ι) : log step observe s is = log astep aobserve a (is.filterMap view) := by
  induction is generalizing s a with
  | nil => rfl
  | cons i is ih =>
    cases hview : view i with
    | some k =>
      -- an input that is seen adds the same to both logs
      obtain ⟨hafter, hanswer⟩ := h.matched hR i k hview
      rw [List.filterMap_cons_some hview, log_cons, log_cons, hanswer, ih hafter]
    | none =>
      -- one that is not adds nothing to either
      obtain ⟨hafter, hsilent⟩ := h.hidden hR i hview
      rw [List.filterMap_cons_none hview, log_cons, hsilent, ih hafter]
      rfl

/-- The states after a run are related as those before it. -/
theorem Refinement.run {astep : α → κ → α × π} {view : ι → Option κ}
    (h : Refinement step astep view observe aobserve R) {s : σ} {a : α} (hR : R s a)
    (is : List ι) : R (Reactive.run step s is) (Reactive.run astep a (is.filterMap view)) := by
  induction is generalizing s a with
  | nil => exact hR
  | cons i is ih =>
    cases hview : view i with
    | some k =>
      rw [List.filterMap_cons_some hview]
      exact ih (h.matched hR i k hview).1
    | none =>
      rw [List.filterMap_cons_none hview]
      exact ih (h.hidden hR i hview).1

/-- A refinement that sees everything. -/
theorem Refinement.log_eq_of_some {astep : α → ι → α × π}
    (h : Refinement step astep some observe aobserve R) {s : σ} {a : α} (hR : R s a)
    (is : List ι) : log step observe s is = log astep aobserve a is := by
  have hlog := h.log_eq hR is
  rwa [List.filterMap_some] at hlog

/-- A refinement that sees some inputs as they are and no others. -/
theorem Refinement.log_eq_of_guard {astep : α → ι → α × π} {shown : ι → Bool}
    (h : Refinement step astep (Option.guard shown) observe aobserve R) {s : σ} {a : α}
    (hR : R s a) (is : List ι) :
    log step observe s is = log astep aobserve a (is.filter shown) := by
  have hlog := h.log_eq hR is
  rwa [List.filterMap_eq_filter] at hlog

/-- A simulation is a refinement of the machine that answers what its states determine. -/
theorem Refinement.of_simulation {astep : α → ι → α} (sim : Simulation step astep R)
    {answer : α → ι → π}
    (hanswer : ∀ {s a}, R s a → ∀ i, observe (step s i).2 = aobserve (answer a i)) :
    Refinement step (fun a i => (astep a i, answer a i)) some observe aobserve R where
  matched := by
    intro s a hR i k hview
    cases hview
    exact ⟨sim.preserved hR i, hanswer hR i⟩
  hidden := by
    intro s a _ i hview
    cases hview

end Refinements

/-! ## Machines in series -/

/-- Two machines, of which the second reads all that the first answers. -/
def series (step : σ → ι → σ × List κ) (step' : α → κ → α × List ω) (s : σ × α) (i : ι) :
    (σ × α) × List ω :=
  (((step s.1 i).1, run step' s.2 (step s.1 i).2), log step' id s.2 (step s.1 i).2)

/-- **Series rule.** What two machines in series answer is what the second one answers to the
log of the first. -/
theorem log_series (step : σ → ι → σ × List κ) (step' : α → κ → α × List ω) (s : σ) (a : α)
    (is : List ι) :
    log (series step step') id (s, a) is = log step' id a (log step id s is) := by
  induction is generalizing s a with
  | nil => rfl
  | cons i is ih =>
    -- the second machine has read the answer to `i` when the rest of the run starts
    have hrest := ih (step s i).1 (run step' a (step s i).2)
    rw [log_cons, log_cons, log_append]
    exact congrArg (log step' id a (step s i).2 ++ ·) hrest

end Reactive
