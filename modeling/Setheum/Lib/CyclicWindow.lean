import Mathlib

/-!
# Residues over consecutive windows

A rotation that takes `c` places a turn, starting where the last turn ended,
covers in `k` turns the `k * c` numbers from its start; among `n * q`
consecutive numbers each residue mod `n` occurs `q` times, and among at most
`n` of them at most once.
-/

namespace CyclicWindow

theorem count_pos_iff (p : ℕ → Prop) [DecidablePred p] (c : ℕ) : 0 < Nat.count p c ↔ ∃ i < c, p i := by
  rw [Nat.count_eq_card_filter_range, Finset.card_pos, Finset.filter_nonempty_iff]
  simp only [Finset.mem_range]

theorem count_mod_eq (a : ℕ) {n : ℕ} (hn : 0 < n) (q : ℕ) {j : ℕ} (hj : j < n) :
    Nat.count (fun k => (a + k) % n = j) (n * q) = q := by
  have hsplit := Nat.count_add (p := fun m => m ≡ j [MOD n]) a (n * q)
  rw [Nat.count_modEq_card _ hn, Nat.count_modEq_card _ hn] at hsplit
  have hdiv : (a + n * q) / n = a / n + q := by rw [Nat.add_mul_div_left _ _ hn]
  have hrem : (a + n * q) % n = a % n := Nat.add_mul_mod_self_left _ _ _
  rw [hdiv, hrem] at hsplit
  have hcount : Nat.count (fun k => a + k ≡ j [MOD n]) (n * q) = q := by omega
  simpa only [Nat.ModEq, Nat.mod_eq_of_lt hj] using hcount

theorem count_mod_le_one (a : ℕ) {n c : ℕ} (hn : 0 < n) (hc : c ≤ n) {j : ℕ} (hj : j < n) :
    Nat.count (fun k => (a + k) % n = j) c ≤ 1 :=
  calc Nat.count (fun k => (a + k) % n = j) c ≤ Nat.count (fun k => (a + k) % n = j) (n * 1) :=
        Nat.count_monotone _ (by omega)
    _ = 1 := count_mod_eq a hn 1 hj

theorem sum_count_windows (p : ℕ → Prop) [DecidablePred p] (c k : ℕ) :
    ∑ t ∈ Finset.range k, Nat.count (fun i => p (t * c + i)) c = Nat.count p (k * c) := by
  induction k with
  | zero => simp
  | succ k ih => rw [Finset.sum_range_succ, ih, Nat.succ_mul, Nat.count_add]

end CyclicWindow
