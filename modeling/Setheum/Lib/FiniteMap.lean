import Mathlib

/-!
# The total of a finite map of amounts

A storage map from keys to amounts, as an association list with distinct
keys. Its total grows by the amount of an entry inserted under a new key and
falls by the amount of an entry taken out.
-/

namespace AList

variable {α : Type*} [DecidableEq α]

/-- The sum of the amounts a map holds. -/
def total (s : AList fun _ : α => ℕ) : ℕ := (s.entries.map Sigma.snd).sum

omit [DecidableEq α] in
@[simp] theorem total_empty : total (∅ : AList fun _ : α => ℕ) = 0 := rfl

theorem total_insert_of_notMem {s : AList fun _ : α => ℕ} {a : α} (b : ℕ) (h : a ∉ s) :
    total (s.insert a b) = b + total s := by
  rw [total, entries_insert_of_notMem h, List.map_cons, List.sum_cons, total]

theorem total_erase_add {s : AList fun _ : α => ℕ} {a : α} {b : ℕ} (h : s.lookup a = some b) :
    total (s.erase a) + b = total s := by
  have hmem : Sigma.mk a b ∈ s.entries := mem_lookup_iff.mp h
  obtain ⟨b', l₁, l₂, -, hsplit, herase⟩ :=
    List.exists_of_kerase (mem_keys.mp (lookup_isSome.mp (by rw [h]; rfl)))
  have hb : b' = b := by
    refine s.nodupKeys.eq_of_mk_mem ?_ hmem
    rw [hsplit]
    exact List.mem_append_right _ List.mem_cons_self
  subst hb
  change ((s.entries.kerase a).map Sigma.snd).sum + b' = (s.entries.map Sigma.snd).sum
  rw [herase, hsplit]
  simp only [List.map_append, List.map_cons, List.sum_append, List.sum_cons]
  omega

end AList
