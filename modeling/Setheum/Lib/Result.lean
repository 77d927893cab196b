import Mathlib

/-!
# Fallible computations

Pallet code returns `Result<T, DispatchError>` and stops at the first `?`.
Modelled in `Except ε`, a run that succeeded is taken apart one step at a
time: `bind_eq_ok` splits a `do` block at its first step, and the guards
`ensure` and `okOr` (`ensure!` and `ok_or`) read as the fact they check.
-/

namespace Result

variable {ε α β : Type}

/-- `ensure!`: fail with `e` unless `b`. -/
def ensure (b : Bool) (e : ε) : Except ε Unit :=
  if b then pure () else throw e

/-- `ok_or`: the value of an `Option`, or the error `e`. -/
def okOr (o : Option α) (e : ε) : Except ε α :=
  match o with
  | some a => pure a
  | none => throw e

theorem bind_eq_ok {x : Except ε α} {f : α → Except ε β} {b : β} :
    x >>= f = .ok b ↔ ∃ a, x = .ok a ∧ f a = .ok b := by
  cases x <;> simp [bind, Except.bind]

@[simp] theorem pure_eq_ok {a b : α} : (pure a : Except ε α) = .ok b ↔ a = b := by
  simp [pure, Except.pure]

@[simp] theorem throw_ne_ok {e : ε} {b : α} : (throw e : Except ε α) ≠ .ok b := by
  simp [throw, throwThe, MonadExceptOf.throw]

@[simp] theorem ensure_eq_ok {b : Bool} {e : ε} {u : Unit} : ensure b e = .ok u ↔ b = true := by
  unfold ensure; cases b <;> simp

@[simp] theorem okOr_eq_ok {o : Option α} {e : ε} {a : α} : okOr o e = .ok a ↔ o = some a := by
  unfold okOr; cases o <;> simp

theorem ok_bind {a : α} {f : α → Except ε β} : (Except.ok a : Except ε α) >>= f = f a := rfl

theorem throw_bind {e : ε} {f : α → Except ε β} : (throw e : Except ε α) >>= f = .error e := rfl

theorem map_eq_ok {x : Except ε α} {f : α → β} {b : β} : x.map f = .ok b ↔ ∃ a, x = .ok a ∧ f a = b := by
  cases x <;> simp [Except.map]

@[simp] theorem mapError_eq_ok {ε' : Type} {x : Except ε α} {f : ε → ε'} {a : α} : x.mapError f = .ok a ↔ x = .ok a := by
  cases x <;> simp [Except.mapError]

@[simp] theorem toOption_eq_some {x : Except ε α} {a : α} : x.toOption = some a ↔ x = .ok a := by
  cases x <;> simp [Except.toOption]

/-- A run that `decide` finds successful through `toOption` has its result. -/
theorem exists_ok_of_toOption_isSome {x : Except ε α} (h : x.toOption.isSome = true) : ∃ a, x = .ok a :=
  (Option.isSome_iff_exists.1 h).imp fun _ ha => toOption_eq_some.1 ha

end Result
