import Mathlib

/-!
# Keeping the best of a run of candidates

A loop that scores each candidate, passes over those without a score, and
keeps a scored one in place of the best so far when it is at least as good.
When the comparison is transitive and any two scores are comparable, what the
loop keeps is a scored candidate at least as good as every scored one, and it
keeps nothing only when no candidate has a score.
-/

namespace RunningBest

variable {α β : Type} (score : α → Option β) (better : β → β → Bool)

/-- One round of the loop: a scored candidate replaces the best so far when
it is at least as good (`better new old`). -/
def step (best : Option (α × β)) (c : α) : Option (α × β) :=
  match score c with
  | none => best
  | some v =>
      match best with
      | some (_, b) => if better v b then some (c, v) else best
      | none => some (c, v)

/-- What the loop keeps after the candidates `cs`: a scored candidate of
them at least as good as every scored one, or nothing when none is scored. -/
def Kept (cs : List α) : Option (α × β) → Prop
  | none => ∀ c ∈ cs, score c = none
  | some (c, v) => c ∈ cs ∧ score c = some v ∧ ∀ c' ∈ cs, ∀ v', score c' = some v' → better v v' = true

section

variable {score better}
variable (htrans : ∀ u v w, better u v = true → better v w = true → better u w = true)
variable (htotal : ∀ c c' v v', score c = some v → score c' = some v' → better v v' = true ∨ better v' v = true)
include htrans htotal

theorem kept_step {cs : List α} {best : Option (α × β)} (h : Kept score better cs best) (c : α) :
    Kept score better (cs ++ [c]) (step score better best c) := by
  have hself : ∀ v, score c = some v → better v v = true := fun v hv => (htotal c c v v hv hv).elim id id
  unfold RunningBest.step
  cases hc : score c with
  | none =>
      match best, h with
      | none, h => exact fun c' hc' => (List.mem_append.mp hc').elim (h c') (fun e => by simp_all)
      | some (b, v), ⟨hb, hv, hbest⟩ =>
          refine ⟨List.mem_append_left _ hb, hv, fun c' hc' v' hv' => ?_⟩
          rcases List.mem_append.mp hc' with hc' | hc'
          · exact hbest c' hc' v' hv'
          · simp_all
  | some w =>
      match best, h with
      | none, h =>
          refine ⟨by simp, hc, fun c' hc' v' hv' => ?_⟩
          rcases List.mem_append.mp hc' with hc' | hc'
          · simp [h c' hc'] at hv'
          · obtain rfl := List.mem_singleton.mp hc'
            obtain rfl := Option.some.inj (hc.symm.trans hv')
            exact hself w hc
      | some (b, v), ⟨hb, hv, hbest⟩ =>
          dsimp only
          by_cases hwv : better w v = true
          · -- the new candidate takes over: every earlier one is beaten through the old best
            rw [if_pos hwv]
            refine ⟨by simp, hc, fun c' hc' v' hv' => ?_⟩
            rcases List.mem_append.mp hc' with hc' | hc'
            · exact htrans w v v' hwv (hbest c' hc' v' hv')
            · obtain rfl := List.mem_singleton.mp hc'
              obtain rfl := Option.some.inj (hc.symm.trans hv')
              exact hself w hc
          · -- the old best stays: by totality it beats the new candidate
            rw [if_neg hwv]
            refine ⟨List.mem_append_left _ hb, hv, fun c' hc' v' hv' => ?_⟩
            rcases List.mem_append.mp hc' with hc' | hc'
            · exact hbest c' hc' v' hv'
            · obtain rfl := List.mem_singleton.mp hc'
              obtain rfl := Option.some.inj (hc.symm.trans hv')
              exact (htotal _ b w v hc hv).resolve_left hwv

theorem kept_foldl (cs : List α) :
    ∀ {pre : List α} {best : Option (α × β)}, Kept score better pre best →
      Kept score better (pre ++ cs) (cs.foldl (step score better) best) := by
  induction cs with
  | nil => exact fun h => by simpa using h
  | cons c cs ih =>
      intro pre best h
      have := ih (kept_step htrans htotal h c)
      rwa [List.append_assoc, List.singleton_append] at this

theorem foldl_step_eq_some {cs : List α} {c : α} {v : β} (h : cs.foldl (step score better) none = some (c, v)) :
    c ∈ cs ∧ score c = some v ∧ ∀ c' ∈ cs, ∀ v', score c' = some v' → better v v' = true := by
  have h0 : Kept score better ([] : List α) none := fun _ h => nomatch h
  have hk := kept_foldl htrans htotal cs h0
  rw [h] at hk
  exact hk

theorem foldl_step_eq_none {cs : List α} (h : cs.foldl (step score better) none = none) :
    ∀ c ∈ cs, score c = none := by
  have h0 : Kept score better ([] : List α) none := fun _ h => nomatch h
  have hk := kept_foldl htrans htotal cs h0
  rw [h] at hk
  exact hk

end

end RunningBest
