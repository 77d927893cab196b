import Mathlib

/-!
# Quorum intersection

Two sets of members of a committee whose sizes add up to more than the
committee plus the faulty members share a member that is not faulty. With `n`
members, at most `f` faulty where `3f < n`, two quorums of `2n/3 + 1` members
each do.
-/

namespace Quorum

variable {α : Type*} [DecidableEq α]

theorem exists_mem_inter_not_mem {U A B F : Finset α} (hA : A ⊆ U) (hB : B ⊆ U)
    (h : U.card + F.card < A.card + B.card) : ∃ i ∈ A, i ∈ B ∧ i ∉ F := by
  have hunion : (A ∪ B).card ≤ U.card := Finset.card_le_card (Finset.union_subset hA hB)
  have hinter := Finset.card_union_add_card_inter A B
  have hlt : F.card < (A ∩ B).card := by omega
  obtain ⟨i, hi, hiF⟩ := Finset.exists_mem_notMem_of_card_lt_card hlt
  obtain ⟨hA, hB⟩ := Finset.mem_inter.mp hi
  exact ⟨i, hA, hB, hiF⟩

theorem two_thirds_quorums_overlap {n f : Nat} (hf : 3 * f < n) : n + f < 2 * (2 * n / 3 + 1) := by
  omega

end Quorum
