import Mathlib

/-!
# Partial bijections

Two partial maps, one each way, inverse to each other: `f a = some b` exactly
when `g b = some a`. Binding two unbound points to each other, or unbinding a
bound pair, keeps them inverse; binding a point to one already bound to
another does not.
-/

namespace PartialBijection

variable {α β : Type*} [DecidableEq α] [DecidableEq β]

/-- `f` and `g` are inverse partial maps. -/
def Inverse (f : α → Option β) (g : β → Option α) : Prop := ∀ a b, f a = some b ↔ g b = some a

variable {f : α → Option β} {g : β → Option α}

omit [DecidableEq α] [DecidableEq β] in
theorem Inverse.symm (h : Inverse f g) : Inverse g f := fun b a => (h a b).symm

theorem Inverse.bind (h : Inverse f g) {a : α} {b : β} (ha : f a = none) (hb : g b = none) :
    Inverse (Function.update f a (some b)) (Function.update g b (some a)) := by
  intro x y
  by_cases hx : x = a
  · subst hx
    by_cases hy : y = b
    · subst hy
      simp
    · -- `g y = some x` would bind `x`, which is unbound
      have hgy : g y ≠ some x := fun hgy => by rw [(h x y).2 hgy] at ha; cases ha
      simp [hy, Ne.symm hy, hgy]
  · by_cases hy : y = b
    · subst hy
      have hfx : f x ≠ some y := fun hfx => by rw [(h x y).1 hfx] at hb; cases hb
      simp [hx, Ne.symm hx, hfx]
    · simp only [Function.update_of_ne hx, Function.update_of_ne hy]
      exact h x y

theorem Inverse.unbind (h : Inverse f g) {a : α} {b : β} (hab : f a = some b) :
    Inverse (Function.update f a none) (Function.update g b none) := by
  have hba := (h a b).1 hab
  intro x y
  by_cases hx : x = a
  · subst hx
    by_cases hy : y = b
    · subst hy
      simp
    · simp only [Function.update_self, Function.update_of_ne hy, reduceCtorEq, false_iff]
      intro hgy
      exact hy (Option.some.inj (((h x y).2 hgy).symm.trans hab))
  · by_cases hy : y = b
    · subst hy
      simp only [Function.update_of_ne hx, Function.update_self, reduceCtorEq, iff_false]
      intro hfx
      exact hx (Option.some.inj (((h x y).1 hfx).symm.trans hba))
    · simp only [Function.update_of_ne hx, Function.update_of_ne hy]
      exact h x y

theorem not_inverse_rebind {a : α} {b b' : β} (hb' : g b' = some a) (hne : b' ≠ b) :
    ¬ Inverse (Function.update f a (some b)) (Function.update g b (some a)) := by
  intro hinv
  have hfa := (hinv a b').2 (by rw [Function.update_of_ne hne, hb'])
  rw [Function.update_self] at hfa
  exact hne (Option.some.inj hfa).symm

end PartialBijection
