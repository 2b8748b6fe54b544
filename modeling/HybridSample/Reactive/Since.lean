import HybridSample.Reactive.Refinement
import Mathlib.Data.List.Induction

/-!
# What the past of a run decides

A register is written by some inputs, survives some, and is lost at all others. What it
holds after a run is decided by the last input that wrote it.

* **`Since`** — some input was `written` where it stood, and every input after it was `kept`.
* **`iff_since`** — the rule: a property of histories that an input writes or keeps is a
  `Since`.
* **`since_append_iff`** — a `Since` over two halves of a history.
* **`run_register`** — the rule for a part of the state that an input overwrites or leaves.
* **`eq_of_countP_eq`** — an occurrence is known by how many came before it.
-/

namespace Reactive

universe u v w

variable {ι : Type u}

/-- Some input was `written` where it stood, and all inputs after it are `kept`. -/
def Since (written : List ι → ι → Prop) (kept : ι → Prop) (is : List ι) : Prop :=
  ∃ pre i post, is = pre ++ i :: post ∧ written pre i ∧ ∀ j ∈ post, kept j

section Since

variable {written : List ι → ι → Prop} {kept : ι → Prop}

theorem not_since_nil : ¬ Since written kept [] := by
  rintro ⟨pre, i, post, hsplit, _⟩
  simp at hsplit

/-- A `Since` over two halves: the writing input is in the second one, or it is in the first
and the whole second half keeps what it wrote. -/
theorem since_append_iff (is js : List ι) :
    Since written kept (is ++ js)
      ↔ Since (fun pre => written (is ++ pre)) kept js
        ∨ Since written kept is ∧ ∀ j ∈ js, kept j := by
  constructor
  · rintro ⟨pre, i, post, hsplit, hwritten, hkept⟩
    rcases List.append_eq_append_iff.mp hsplit with ⟨mid, rfl, rfl⟩ | ⟨mid, rfl, hmid⟩
    · exact Or.inl ⟨mid, i, post, rfl, hwritten, hkept⟩
    · cases mid with
      | nil =>
        -- the second half starts with the writing input
        rw [List.nil_append] at hmid
        refine Or.inl ⟨[], i, post, hmid.symm, ?_, hkept⟩
        simpa using hwritten
      | cons k mid =>
        obtain ⟨rfl, rfl⟩ := List.cons.inj hmid
        refine Or.inr ⟨⟨pre, i, mid, rfl, hwritten, ?_⟩, ?_⟩
        · intro j hj
          exact hkept j (List.mem_append_left js hj)
        · intro j hj
          exact hkept j (List.mem_append_right mid hj)
  · rintro (⟨pre, i, post, rfl, hwritten, hkept⟩ | ⟨⟨pre, i, post, rfl, hwritten, hkept⟩, hjs⟩)
    · exact ⟨is ++ pre, i, post, (List.append_assoc is pre (i :: post)).symm, hwritten, hkept⟩
    · refine ⟨pre, i, post ++ js, by simp, hwritten, ?_⟩
      intro j hj
      rcases List.mem_append.mp hj with hpost | hj
      · exact hkept j hpost
      · exact hjs j hj

/-- One input is there to be written, with nothing in front of it. -/
theorem since_singleton_iff (i : ι) : Since written kept [i] ↔ written [] i := by
  constructor
  · rintro ⟨pre, k, post, hsplit, hwritten, _⟩
    cases pre with
    | nil =>
      obtain ⟨rfl, _⟩ := List.cons.inj hsplit
      exact hwritten
    | cons j pre =>
      obtain ⟨_, htail⟩ := List.cons.inj hsplit
      simp at htail
  · intro hwritten
    exact ⟨[], i, [], rfl, hwritten, fun j hj => absurd hj List.not_mem_nil⟩

/-- One more input writes, or keeps what was written before. -/
theorem since_concat_iff (is : List ι) (i : ι) :
    Since written kept (is ++ [i]) ↔ written is i ∨ Since written kept is ∧ kept i := by
  rw [since_append_iff, since_singleton_iff]
  simp

/-- **Since rule.** What fails at the start, and holds after an input exactly when the input
writes it or finds and keeps it, holds exactly since it was written. -/
theorem iff_since {P : List ι → Prop} (hnil : ¬ P [])
    (hconcat : ∀ is i, P (is ++ [i]) ↔ written is i ∨ P is ∧ kept i) (is : List ι) :
    P is ↔ Since written kept is := by
  induction is using List.reverseRecOn with
  | nil => exact iff_of_false hnil not_since_nil
  | append_singleton is i ih => rw [hconcat, since_concat_iff, ih]

end Since

section Runs

variable {σ : Type v} {ο : Type w} {step : σ → ι → σ × ο}

/-- **Register rule.** A part of the state that every input overwrites or leaves alone holds
what was written last. -/
theorem run_register {β : Type*} (part : σ → β) {write : ι → Option β}
    (hstep : ∀ s i, part (step s i).1 = (write i).getD (part s)) (s : σ) (is : List ι) :
    part (run step s is) = (is.filterMap write).getLast?.getD (part s) := by
  induction is using List.reverseRecOn with
  | nil => rfl
  | append_singleton is i ih =>
    rw [run_concat, hstep, ih, List.filterMap_append]
    -- the last write is the new one, or else what it was before
    cases hwrite : write i with
    | none => simp [hwrite]
    | some b => simp [hwrite]

end Runs

/-- Two occurrences in a history with as many others in front of them are the same one. -/
theorem eq_of_countP_eq {p : ι → Bool} {pre pre' post post' : List ι} {i i' : ι}
    (hsplit : pre ++ i :: post = pre' ++ i' :: post') (hi : p i = true) (hi' : p i' = true)
    (hcount : pre.countP p = pre'.countP p) : pre = pre' ∧ i = i' := by
  rcases List.append_eq_append_iff.mp hsplit with ⟨mid, rfl, hmid⟩ | ⟨mid, rfl, hmid⟩
  · -- two splits of one list: one prefix extends the other, and if by anything then by an input
    -- that counts
    cases mid with
    | nil => exact ⟨(List.append_nil pre).symm, (List.cons.inj hmid).1⟩
    | cons j mid =>
      -- the second one has the first in front of it
      obtain ⟨rfl, _⟩ := List.cons.inj hmid
      rw [List.countP_append, List.countP_cons_of_pos hi] at hcount
      omega
  · cases mid with
    | nil => exact ⟨List.append_nil pre', (List.cons.inj hmid).1.symm⟩
    | cons j mid =>
      obtain ⟨rfl, _⟩ := List.cons.inj hmid
      rw [List.countP_append, List.countP_cons_of_pos hi'] at hcount
      omega

end Reactive
