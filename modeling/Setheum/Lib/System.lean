import Mathlib

/-!
# Transition systems with fallible steps

A system has a step function that takes a state and a call and either
fails or yields the next state. A failing call is rolled back, so the
reachable states are those obtained from an initial one by successful
calls. Invariants are proved once by the induction rule below.
-/

namespace Transition

/-- A system: initial states and a fallible step function. -/
structure System (σ α : Type*) where
  init : σ → Prop
  step : σ → α → Option σ

variable {σ α : Type*}

/-- The states reached from an initial state by successful calls. -/
inductive Reachable (S : System σ α) : σ → Prop where
  | init {s : σ} : S.init s → Reachable S s
  | step {s t : σ} (a : α) : Reachable S s → S.step s a = some t → Reachable S t

/-- A property of every reachable state. -/
def Invariant (S : System σ α) (P : σ → Prop) : Prop := ∀ s, Reachable S s → P s

theorem invariant_of_inductive (S : System σ α) {P : σ → Prop}
    (hinit : ∀ s, S.init s → P s)
    (hstep : ∀ s t a, P s → S.step s a = some t → P t) : Invariant S P := by
  intro s hs
  induction hs with
  | init h => exact hinit _ h
  | step a _ hst ih => exact hstep _ _ a ih hst

theorem invariant_of_inductive_with (S : System σ α) {P Q : σ → Prop} (hQ : Invariant S Q)
    (hinit : ∀ s, S.init s → P s)
    (hstep : ∀ s t a, Q s → P s → S.step s a = some t → P t) : Invariant S P := by
  intro s hs
  induction hs with
  | init h => exact hinit _ h
  | step a hr hst ih => exact hstep _ _ a (hQ _ hr) ih hst

theorem Invariant.and {S : System σ α} {P Q : σ → Prop} (hP : Invariant S P)
    (hQ : Invariant S Q) : Invariant S fun s => P s ∧ Q s :=
  fun s hs => ⟨hP s hs, hQ s hs⟩

/-! ## Restricting the calls -/

/-- The system that takes only the calls satisfying `P`. -/
def System.restrict (S : System σ α) (P : α → Prop) [DecidablePred P] : System σ α where
  init := S.init
  step s a := if P a then S.step s a else none

theorem System.restrict_step_eq_some {S : System σ α} {P : α → Prop} [DecidablePred P]
    {s t : σ} {a : α} : (S.restrict P).step s a = some t ↔ P a ∧ S.step s a = some t := by
  unfold System.restrict
  by_cases h : P a <;> simp [h]

/-- The system that takes a call only in the states where `G` allows it. -/
def System.guard (S : System σ α) (G : σ → α → Prop) [∀ s a, Decidable (G s a)] : System σ α where
  init := S.init
  step s a := if G s a then S.step s a else none

theorem System.guard_step_eq_some {S : System σ α} {G : σ → α → Prop} [∀ s a, Decidable (G s a)]
    {s t : σ} {a : α} : (S.guard G).step s a = some t ↔ G s a ∧ S.step s a = some t := by
  unfold System.guard
  by_cases h : G s a <;> simp [h]

/-- Running a list of calls; a failing call leaves the state unchanged, as a
rolled-back extrinsic does. -/
def System.run (S : System σ α) : σ → List α → σ
  | s, [] => s
  | s, a :: as => S.run ((S.step s a).getD s) as

theorem Reachable.run {S : System σ α} {s : σ} (hs : Reachable S s) (as : List α) :
    Reachable S (S.run s as) := by
  induction as generalizing s with
  | nil => exact hs
  | cons a as ih =>
      apply ih
      cases h : S.step s a with
      | none => exact hs
      | some t => exact .step a hs h

theorem System.run_invariant_while (S : System σ α) {P B : σ → Prop}
    (hstep : ∀ s a, P s → B ((S.step s a).getD s) → P ((S.step s a).getD s)) :
    ∀ (as : List α) {s : σ}, P s → (∀ k, B (S.run s (as.take k))) → P (S.run s as) := by
  intro as
  induction as with
  | nil =>
      intro s h _
      exact h
  | cons a as ih =>
      intro s h hB
      apply ih (hstep s a h (hB 1))
      intro k
      exact hB (k + 1)

/-! ## Runs over a list -/

theorem foldl_invariant {β : Type*} {P : σ → Prop} {f : σ → β → σ} {l : List β}
    (hf : ∀ s b, b ∈ l → P s → P (f s b)) : ∀ {s : σ}, P s → P (l.foldl f s) := by
  induction l with
  | nil => exact fun h => h
  | cons b l ih =>
      intro s h
      exact ih (fun s' b' hb' => hf s' b' (List.mem_cons_of_mem _ hb')) (hf s b List.mem_cons_self h)

theorem foldlM_invariant {β : Type*} {P : σ → Prop} {f : σ → β → Option σ} {l : List β}
    (hf : ∀ s b t, b ∈ l → P s → f s b = some t → P t) :
    ∀ {s t : σ}, P s → l.foldlM f s = some t → P t := by
  induction l with
  | nil =>
      intro s t h ht
      cases ht
      exact h
  | cons b l ih =>
      intro s t h ht
      rw [List.foldlM_cons] at ht
      cases hb : f s b with
      | none => rw [hb] at ht; cases ht
      | some s' =>
          rw [hb] at ht
          exact ih (fun s'' b' t' hb' => hf s'' b' t' (List.mem_cons_of_mem _ hb'))
            (hf s b s' List.mem_cons_self h hb) ht

/-! ## Machines that answer their calls -/

/-- A machine that answers every call and moves to its next state. -/
structure Machine (σ α ο : Type*) where
  init : σ
  step : σ → α → ο × σ

/-- The answers to a list of calls, in order, and the state they leave. -/
def Machine.run {ο : Type*} (M : Machine σ α ο) (as : List α) : List ο × σ :=
  as.foldl (fun r a => (r.1 ++ [(M.step r.2 a).1], (M.step r.2 a).2)) ([], M.init)

variable {ο : Type*} (M : Machine σ α ο)

@[simp] theorem Machine.run_nil : M.run [] = ([], M.init) := rfl

theorem Machine.run_append_singleton (as : List α) (a : α) :
    M.run (as ++ [a]) =
      ((M.run as).1 ++ [(M.step (M.run as).2 a).1], (M.step (M.run as).2 a).2) := by
  simp [Machine.run, List.foldl_append]

/-- The induction rule over histories: a relation between the calls made, the
answers given and the state left, that holds of the empty history and that
every further call keeps, holds of every history. -/
theorem Machine.run_induction (P : List α → List ο → σ → Prop) (hinit : P [] [] M.init)
    (hstep : ∀ as os s a, P as os s → P (as ++ [a]) (os ++ [(M.step s a).1]) (M.step s a).2) :
    ∀ as, P as (M.run as).1 (M.run as).2 := by
  intro as
  induction as using List.reverseRecOn with
  | nil => exact hinit
  | append_singleton as a ih =>
      rw [M.run_append_singleton]
      exact hstep _ _ _ a ih

end Transition
