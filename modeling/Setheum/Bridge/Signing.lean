import Setheum.Bridge.Pallet

/-!
# The signed message determines the proposals

The message the MPC address signs hashes each proposal's five words, hashes
their concatenation, and hashes that under the EIP-712 domain. Every word has
32 bytes, so equal messages for two non-empty lists of proposals either come
from the same list or exhibit two different inputs keccak-256 maps alike.
Read with keccak-256 free of collisions, a signature authorizes one ordered
list of proposals.
-/

namespace Setheum.Bridge

open Encoding

variable {AccountId AssetId Location L : Type} (T : Config AccountId AssetId Location L)

theorem beBytes_word_inj {n m : Nat} (hn : n < 2 ^ 64) (hm : m < 2 ^ 64) (h : beBytes 32 n = beBytes 32 m) :
    n = m := by
  have hword : 2 ^ 64 ≤ 256 ^ 32 := by decide
  exact beBytes_inj (Nat.lt_of_lt_of_le hn hword) (Nat.lt_of_lt_of_le hm hword) h

theorem proposalHash_inj {p q : Proposal} (h : proposalHash T p = proposalHash T q) :
    p = q ∨ Collision T.keccak := by
  refine (eq_or_collision T.keccak h).elim (fun henc => ?_) Or.inr
  obtain ⟨henc, hdata⟩ := List.append_inj' henc (by rw [(T.keccak _).2, (T.keccak _).2])
  obtain ⟨henc, hrid⟩ := List.append_inj' henc (by rw [p.resourceId.2, q.resourceId.2])
  obtain ⟨henc, hnonce⟩ := List.append_inj' henc (by rw [length_beBytes, length_beBytes])
  obtain ⟨-, hdomain⟩ := List.append_inj' henc (by rw [length_beBytes, length_beBytes])
  have hd : p.originDomainId = q.originDomainId :=
    UInt8.toNat_inj.1 (beBytes_word_inj (by have := UInt8.toNat_lt p.originDomainId; omega)
      (by have := UInt8.toNat_lt q.originDomainId; omega) hdomain)
  have hn : p.depositNonce = q.depositNonce :=
    UInt64.toNat_inj.1 (beBytes_word_inj (UInt64.toNat_lt _) (UInt64.toNat_lt _) hnonce)
  have hr : p.resourceId = q.resourceId := Subtype.ext hrid
  refine (eq_or_collision T.keccak (Subtype.ext hdata)).elim (fun hdata => ?_) Or.inr
  cases p
  cases q
  simp_all

theorem constructEcdsaSigningProposalsData_inj {ps qs : List Proposal} (hps : ps ≠ []) (hqs : qs ≠ [])
    (h : constructEcdsaSigningProposalsData T ps = constructEcdsaSigningProposalsData T qs) :
    ps = qs ∨ Collision T.keccak := by
  unfold constructEcdsaSigningProposalsData at h
  rw [if_neg (by simpa using hps), if_neg (by simpa using hqs)] at h
  refine (eq_or_collision T.keccak h).elim (fun h => ?_) Or.inr
  refine (eq_or_collision T.keccak (Subtype.ext (List.append_cancel_left h))).elim (fun h => ?_) Or.inr
  refine (eq_or_collision T.keccak (Subtype.ext (List.append_cancel_left h))).elim (fun h => ?_) Or.inr
  have hwords : ∀ rs : List Proposal, ∀ b ∈ (rs.map (proposalHash T)).map Subtype.val, b.length = 32 := by
    intro rs b hb
    obtain ⟨x, -, rfl⟩ := List.mem_map.1 hb
    exact x.2
  have hblocks := flatten_inj_of_length (by decide) (hwords ps) (hwords qs) h
  exact map_eq_or (fun _ _ => proposalHash_inj T) (List.map_injective_iff.2 Subtype.val_injective hblocks)

end Setheum.Bridge
