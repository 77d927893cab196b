import Mathlib

/-!
# Holdings backed by an issuance

An issuance `T` backs holdings `w` with slack `k` when every finite set of
holders holds, with `k` more, at most `T`. The bound is over finite sets, so
the holders' type need not be finite. A debit of one holder adds to the
slack what it takes, a credit spends slack, and a burn lowers the issuance by
slack. Each takes one holder at a time and asks nothing of the others but
that they did not grow.
-/

namespace Backing

variable {α : Type*}

/-- Every finite set of holders holds, with `k` more, at most `T`. -/
def BackedBy (w : α → ℕ) (k T : ℕ) : Prop := ∀ F : Finset α, ∑ x ∈ F, w x + k ≤ T

theorem BackedBy.mono {w w' : α → ℕ} {k k' T T' : ℕ} (h : BackedBy w k T) (hw : ∀ x, w' x ≤ w x)
    (hk : k' ≤ k) (hT : T ≤ T') : BackedBy w' k' T' := by
  intro F
  have := Finset.sum_le_sum fun x (_ : x ∈ F) => hw x
  have := h F
  omega

theorem BackedBy.le {w : α → ℕ} {k T : ℕ} (h : BackedBy w k T) (x : α) : w x + k ≤ T := by
  simpa using h {x}

theorem BackedBy.burn {w : α → ℕ} {k T d : ℕ} (h : BackedBy w (k + d) T) : BackedBy w k (T - d) := by
  intro F
  have := h F
  omega

theorem BackedBy.issue {w : α → ℕ} {k T d : ℕ} (h : BackedBy w k T) : BackedBy w (k + d) (T + d) := by
  intro F
  have := h F
  omega

variable [DecidableEq α]

theorem sum_le_add_of_le_at {w w' : α → ℕ} (who : α) {d : ℕ} (F : Finset α)
    (hwho : w' who ≤ w who + d) (hoff : ∀ x, x ≠ who → w' x ≤ w x) :
    ∑ x ∈ F, w' x ≤ ∑ x ∈ F, w x + d := by
  by_cases hmem : who ∈ F
  · have h' := Finset.add_sum_erase F w' hmem
    have h := Finset.add_sum_erase F w hmem
    have hrest : ∑ x ∈ F.erase who, w' x ≤ ∑ x ∈ F.erase who, w x :=
      Finset.sum_le_sum fun x hx => hoff x (Finset.ne_of_mem_erase hx)
    omega
  · have hrest : ∑ x ∈ F, w' x ≤ ∑ x ∈ F, w x :=
      Finset.sum_le_sum fun x hx => hoff x fun h => hmem (h ▸ hx)
    omega

theorem BackedBy.add_le {w : α → ℕ} {k T : ℕ} (h : BackedBy w k T) {x y : α} (hxy : x ≠ y) :
    w x + w y + k ≤ T := by
  simpa [Finset.sum_pair hxy] using h {x, y}

theorem BackedBy.debit {w w' : α → ℕ} {k T d : ℕ} (who : α) (h : BackedBy w k T)
    (hwho : w' who + d ≤ w who) (hoff : ∀ x, x ≠ who → w' x ≤ w x) : BackedBy w' (k + d) T := by
  intro F
  by_cases hmem : who ∈ F
  · have h' := Finset.add_sum_erase F w' hmem
    have hw := Finset.add_sum_erase F w hmem
    have hrest : ∑ x ∈ F.erase who, w' x ≤ ∑ x ∈ F.erase who, w x :=
      Finset.sum_le_sum fun x hx => hoff x (Finset.ne_of_mem_erase hx)
    have := h F
    omega
  · -- the holder outside the set still counts against the issuance
    have hins := h (insert who F)
    rw [Finset.sum_insert hmem] at hins
    have hrest : ∑ x ∈ F, w' x ≤ ∑ x ∈ F, w x :=
      Finset.sum_le_sum fun x hx => hoff x fun h => hmem (h ▸ hx)
    omega

theorem BackedBy.credit {w w' : α → ℕ} {k T d : ℕ} (who : α) (h : BackedBy w (k + d) T)
    (hwho : w' who ≤ w who + d) (hoff : ∀ x, x ≠ who → w' x ≤ w x) : BackedBy w' k T := by
  intro F
  have := sum_le_add_of_le_at who F hwho hoff
  have := h F
  omega

end Backing
