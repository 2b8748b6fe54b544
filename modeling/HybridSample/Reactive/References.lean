import HybridSample.Reactive.Since

/-!
# References to what a service hands out

Owners ask a service for objects. Each of them keeps a reference to the one it was given last,
and loses it when it gives the object up or when the object is gone. A machine that does this
bookkeeping is known by the histories its references come from:

* **`References`** — which inputs ask, give up and take away.
* **`References.HeldSince`** — an owner was given an object and has not lost it since.
* **`Holds.held_run_iff`** — the rule: in every run exactly these objects are held.
* **`Holds.repeats_of_shared`** — two owners hold one object only if it was handed out twice.
-/

namespace Reactive

universe u v w x y

variable {σ : Type u} {ι : Type v} {ο : Type w} {ω : Type x} {ν : Type y}

/-- Which inputs ask for an object, give one up and take one away. -/
structure References (ι : Type v) (ω : Type x) (ν : Type y) where
  /-- The owner that is given a new object. -/
  opener : ι → Option ω
  /-- The owner that gives its object up. -/
  closer : ι → Option ω
  /-- The object that is gone. -/
  released : ι → Option ν

namespace References

variable (refs : References ι ω ν) (answers : Nat → Option ν)

/-- How many objects were asked for. -/
def openings (is : List ι) : Nat :=
  is.countP fun i => (refs.opener i).isSome

/-- What an input does not do while an owner keeps an object. -/
structure Keeps (owner : ω) (object : ν) (i : ι) : Prop where
  opener : refs.opener i ≠ some owner
  closer : refs.closer i ≠ some owner
  released : refs.released i ≠ some object

/-- The owner asks here, and the service answers with the object. -/
def Opens (owner : ω) (object : ν) (pre : List ι) (i : ι) : Prop :=
  refs.opener i = some owner ∧ answers (refs.openings pre) = some object

/-- The owner was given the object and has not lost it since. -/
def HeldSince (owner : ω) (object : ν) : List ι → Prop :=
  Since (refs.Opens answers owner object) (refs.Keeps owner object)

/-- An object handed out in a history is one of the answers counted at its end. -/
theorem Opens.lt_openings {refs : References ι ω ν} {answers : Nat → Option ν} {owner : ω}
    {object : ν} {pre : List ι} {i : ι} (h : refs.Opens answers owner object pre i)
    (post : List ι) :
    (refs.opener i).isSome = true ∧ refs.openings pre < refs.openings (pre ++ i :: post) := by
  have hopener : (refs.opener i).isSome = true := by
    rw [h.1]
    rfl
  -- the opening counts itself, and what comes after it adds to the count
  have hcount : refs.openings (pre ++ i :: post)
      = refs.openings pre + (refs.openings post + 1) := by
    simp [openings, List.countP_append, hopener]
  exact ⟨hopener, by omega⟩

/-- An input that keeps the object does nothing to its history. -/
theorem heldSince_concat_of_keeps {refs : References ι ω ν} {answers : Nat → Option ν} {owner : ω}
    {object : ν} {i : ι} (h : refs.Keeps owner object i) (is : List ι) :
    refs.HeldSince answers owner object (is ++ [i]) ↔ refs.HeldSince answers owner object is := by
  refine (since_concat_iff is i).trans ?_
  rw [or_iff_right fun hopens => h.opener hopens.1]
  exact and_iff_left h

/-- With nothing to compare with, an empty reference is all that can match, and it stays empty. -/
theorem held_of_none (held : Option ν) : (if held = none then none else held) = held := by
  cases held <;> rfl

section Next

variable [DecidableEq ω] [DecidableEq ν]

/-- What an owner that holds `held` holds after an input, if the service answers `answer`. -/
def next (answer : Option ν) (i : ι) (owner : ω) (held : Option ν) : Option ν :=
  if refs.opener i = some owner then answer
  else if refs.closer i = some owner then none
  else if held = refs.released i then none
  else held

/-- An owner holds an object after an input exactly when it is given it now, or held it and
the input keeps it. -/
theorem next_eq_some_iff (answer : Option ν) (i : ι) (owner : ω) (held : Option ν) (object : ν) :
    refs.next answer i owner held = some object
      ↔ refs.opener i = some owner ∧ answer = some object
        ∨ held = some object ∧ refs.Keeps owner object i := by
  unfold next
  split
  · next hopener =>
    constructor
    · exact fun hanswer => Or.inl ⟨hopener, hanswer⟩
    · rintro (⟨_, hanswer⟩ | ⟨_, hkeeps⟩)
      · exact hanswer
      · exact absurd hopener hkeeps.opener
  · next hopener =>
    rw [or_iff_right fun hopens => hopener hopens.1]
    split
    · next hcloser => exact iff_of_false nofun fun hheld => hheld.2.closer hcloser
    · next hcloser =>
      split
      -- the object held is the one that is gone, or there is none of either
      · next hreleased =>
        refine iff_of_false nofun ?_
        rintro ⟨hheld, hkeeps⟩
        exact hkeeps.released (hreleased.symm.trans hheld)
      · next hreleased =>
        constructor
        · intro hheld
          exact ⟨hheld, hopener, hcloser, fun hgone => hreleased (hheld.trans hgone.symm)⟩
        · exact And.left

/-- An input another owner is asked or told of takes an object away by its release only. -/
theorem next_of_ne {i : ι} {owner : ω} (hopener : refs.opener i ≠ some owner)
    (hcloser : refs.closer i ≠ some owner) (answer held : Option ν) :
    refs.next answer i owner held = if held = refs.released i then none else held := by
  unfold next
  rw [if_neg hopener, if_neg hcloser]

/-- An input that releases nothing asks, gives up, or leaves what is held. -/
theorem next_of_not_released {i : ι} (h : refs.released i = none) (answer : Option ν) (owner : ω)
    (held : Option ν) :
    refs.next answer i owner held
      = if refs.opener i = some owner then answer
        else if refs.closer i = some owner then none
        else held := by
  unfold next
  rw [h, held_of_none]

/-- The machine keeps these references: `held` is what its states hold, `asked` how many
objects they have asked for. -/
structure Holds (step : σ → ι → σ × ο) (held : σ → ω → Option ν) (asked : σ → Nat) :
    Prop where
  held : ∀ s i owner,
    held (step s i).1 owner = refs.next (answers (asked s)) i owner (held s owner)
  asked : ∀ s i, asked (step s i).1 = asked s + if (refs.opener i).isSome then 1 else 0

end Next

section Runs

variable [DecidableEq ω] [DecidableEq ν] {refs : References ι ω ν} {answers : Nat → Option ν}
  {step : σ → ι → σ × ο} {held : σ → ω → Option ν} {asked : σ → Nat} {s : σ}

/-- How many objects were asked for is how many inputs asked. -/
theorem Holds.asked_run (h : refs.Holds answers step held asked) (hasked : asked s = 0)
    (is : List ι) : asked (run step s is) = refs.openings is := by
  induction is using List.reverseRecOn with
  | nil => exact hasked
  | append_singleton is i ih =>
    rw [run_concat, h.asked, ih]
    unfold openings
    rw [List.countP_append, List.countP_singleton]

/-- The reference after one more input: just given, or held before and not lost. -/
theorem Holds.held_concat_iff (h : refs.Holds answers step held asked) (hasked : asked s = 0)
    (owner : ω) (object : ν) (is : List ι) (i : ι) :
    held (run step s (is ++ [i])) owner = some object
      ↔ refs.Opens answers owner object is i
        ∨ held (run step s is) owner = some object ∧ refs.Keeps owner object i := by
  rw [run_concat, h.held, next_eq_some_iff, h.asked_run hasked]
  rfl

/-- **What is held.** After any run an owner holds an object exactly since it was given it. -/
theorem Holds.held_run_iff (h : refs.Holds answers step held asked) (hasked : asked s = 0)
    (hheld : ∀ owner, held s owner = none) (owner : ω) (object : ν) (is : List ι) :
    held (run step s is) owner = some object ↔ refs.HeldSince answers owner object is := by
  refine iff_since (P := fun is => held (run step s is) owner = some object) ?_
    (h.held_concat_iff hasked owner object) is
  show held s owner ≠ some object
  rw [hheld]
  exact nofun

/-- **Shared objects.** One input gives to one owner, so an object two owners hold was handed
out at least twice. -/
theorem Holds.repeats_of_shared (h : refs.Holds answers step held asked) (hasked : asked s = 0)
    (hheld : ∀ owner, held s owner = none) {owner owner' : ω} (hne : owner ≠ owner') {object : ν}
    {is : List ι} (howner : held (run step s is) owner = some object)
    (howner' : held (run step s is) owner' = some object) :
    ∃ m n, m < n ∧ n < refs.openings is ∧ answers m = some object ∧ answers n = some object := by
  obtain ⟨pre, i, post, hsplit, hopens, _⟩ :=
    (h.held_run_iff hasked hheld owner object is).mp howner
  obtain ⟨pre', i', post', hsplit', hopens', _⟩ :=
    (h.held_run_iff hasked hheld owner' object is).mp howner'
  obtain ⟨hopener, hlt⟩ := hopens.lt_openings post
  obtain ⟨hopener', hlt'⟩ := hopens'.lt_openings post'
  -- as many openings before both would make them one input, which gives to one owner
  have hdistinct : refs.openings pre ≠ refs.openings pre' := by
    intro hcount
    have hsame := eq_of_countP_eq (hsplit.symm.trans hsplit') hopener hopener' hcount
    have howners := hopens.1.symm.trans (hsame.2 ▸ hopens'.1)
    exact hne (Option.some.inj howners)
  rw [← hsplit] at hlt
  rw [← hsplit'] at hlt'
  rcases Nat.lt_or_gt_of_ne hdistinct with hbefore | hafter
  · exact ⟨_, _, hbefore, hlt', hopens.2, hopens'.2⟩
  · exact ⟨_, _, hafter, hlt, hopens'.2, hopens.2⟩

end Runs

end References

end Reactive
