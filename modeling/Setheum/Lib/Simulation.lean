import Mathlib

/-!
# Forward simulation of machines that answer or fail

A machine's step takes a state and a call and either fails (a panic, a trap) or
answers and moves on. A run answers a list of calls in turn and fails with the
first failing call. When every allowed call of one machine, from a state in an
invariant, answers as another machine does from the state's image, and keeps
the invariant, whole runs of allowed calls agree: the first machine refines
the second.
-/

namespace Simulation

variable {σ τ α ο : Type*}

/-- The answers to a list of calls, and the state they leave, or `none` once a
call fails. -/
def run (step : σ → α → Option (ο × σ)) : σ → List α → Option (List ο × σ)
  | s, [] => some ([], s)
  | s, a :: as => (step s a).bind fun r => (run step r.2 as).map fun rs => (r.1 :: rs.1, rs.2)

@[simp] theorem run_nil (step : σ → α → Option (ο × σ)) (s : σ) : run step s [] = some ([], s) := rfl

theorem run_cons (step : σ → α → Option (ο × σ)) (s : σ) (a : α) (as : List α) :
    run step s (a :: as) =
      (step s a).bind fun r => (run step r.2 as).map fun rs => (r.1 :: rs.1, rs.2) := rfl

section Refinement

variable (step : σ → α → Option (ο × σ)) (step' : τ → α → Option (ο × τ)) (f : σ → τ)

/-- One call of `step` from `s` answers as `step'` does from `f s`, and every
state it leaves satisfies `I`. -/
def StepRefines (I : σ → Prop) (s : σ) (a : α) : Prop :=
  (step s a).map (fun r => (r.1, f r.2)) = step' (f s) a ∧ ∀ o t, step s a = some (o, t) → I t

/-- The simulation rule: when every allowed call from a state satisfying `I`
refines, every run of allowed calls from such a state answers as the run of
`step'` from its image does. -/
theorem run_refines {I : σ → Prop} {A : α → Prop} (hstep : ∀ s a, I s → A a → StepRefines step step' f I s a) :
    ∀ (as : List α) (s : σ), I s → (∀ a ∈ as, A a) →
      (run step s as).map (fun r => (r.1, f r.2)) = run step' (f s) as := by
  intro as
  induction as with
  | nil => intro s _ _; rfl
  | cons a as ih =>
      intro s hs hall
      obtain ⟨hanswer, hkeep⟩ := hstep s a hs (hall a List.mem_cons_self)
      rw [run_cons, run_cons, ← hanswer]
      cases hfirst : step s a with
      | none => rfl
      | some r =>
          -- the rest of the run starts from a state in the invariant
          have hrest := ih r.2 (hkeep r.1 r.2 hfirst) fun b hb => hall b (List.mem_cons_of_mem _ hb)
          simp only [Option.bind_some, Option.map_some, ← hrest, Option.map_map]
          cases run step r.2 as <;> rfl

theorem run_invariant {I : σ → Prop} {A : α → Prop} (hstep : ∀ s a, I s → A a → StepRefines step step' f I s a) :
    ∀ (as : List α) (s : σ) {os : List ο} {t : σ}, I s → (∀ a ∈ as, A a) → run step s as = some (os, t) → I t := by
  intro as
  induction as with
  | nil =>
      intro s os t hs _ hrun
      cases hrun
      exact hs
  | cons a as ih =>
      intro s os t hs hall hrun
      rw [run_cons] at hrun
      obtain ⟨r, hfirst, hrest⟩ := Option.bind_eq_some_iff.mp hrun
      obtain ⟨rs, hrs, hlast⟩ := Option.map_eq_some_iff.mp hrest
      obtain ⟨-, rfl⟩ := Prod.mk.inj hlast
      have hmid : I r.2 := (hstep s a hs (hall a List.mem_cons_self)).2 r.1 r.2 hfirst
      exact ih r.2 hmid (fun b hb => hall b (List.mem_cons_of_mem _ hb)) hrs

end Refinement

end Simulation
