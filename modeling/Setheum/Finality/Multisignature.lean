import Setheum.SetBft.Rmc
import Setheum.Lib.Quorum

/-!
# Multisignatures of the finality committee

The finality gadget's keychain (`abft/crypto.rs`) checks signatures with the
`AuthorityVerifier` of `crypto.rs`: node `i`'s signature verifies under the
`i`-th authority key, and an index outside the committee never verifies. Its
partial multisignature is a `SignatureSet`, a `NodeMap` of signatures over the
committee, complete when it holds at least `2n/3 + 1` signatures and each of
them verifies. Key checking itself (`crypto::verify`) is a parameter.

Run by this committee, the reliable multicast of `set-bft` returns only
hashes signed by more than two thirds of the committee: any two hashes
returned anywhere were both signed by a member outside any set of fewer than
a third of the committee. Conversely, a node handed verified signed hashes of
one hash by more than two thirds of the committee returns it, whatever else
it is handed in between: no call drops a signature a node holds.
-/

namespace Setheum.Finality

open Transition SetBft Rmc

variable {A B S H : Type}

/-- `AuthorityVerifier`: the session's authority keys, with `crypto::verify`
of a signature of a message under one key. -/
structure AuthorityVerifier (A B S : Type) where
  authorities : List A
  verifyKey : A → B → S → Bool

namespace AuthorityVerifier

variable (V : AuthorityVerifier A B S)

def nodeCount : Nat := V.authorities.length

/-- `verify`: under the key of the index; false outside the committee. -/
def verify (msg : B) (sgn : S) (index : Nat) : Bool :=
  match V.authorities[index]? with
  | some authority => V.verifyKey authority msg sgn
  | none => false

def threshold : Nat := 2 * V.nodeCount / 3 + 1

/-- `is_complete`. -/
def isComplete (msg : B) (signatures : NodeMap S) : Bool :=
  let signatureCount := signatures.iter.length
  if signatureCount < V.threshold then false
  else signatures.iter.all fun e => V.verify msg e.2 e.1

end AuthorityVerifier

/-- The multisigning of the finality `Keychain`, for the RMC of hashes whose
bytes are `hash`: `bootstrap_multi` starts a `SignatureSet` of the committee's
size, and `add_signature` inserts into it. -/
def keychainConfig (V : AuthorityVerifier A B S) (hash : H → B) : Rmc.Config H B S (NodeMap S) where
  verify := V.verify
  bootstrapMulti sgn index := (NodeMap.withSize V.nodeCount).insert index sgn
  addSignature signatures sgn index := signatures.insert index sgn
  isComplete := V.isComplete
  hash := hash

/-- The nodes whose signatures a signature set holds. -/
def signers (signatures : NodeMap S) : Finset Nat := (signatures.iter.map Prod.fst).toFinset

namespace AuthorityVerifier

variable {V : AuthorityVerifier A B S} {msg : B} {sgn : S} {index : Nat}

theorem verify_eq_true :
    V.verify msg sgn index = true ↔ ∃ a, V.authorities[index]? = some a ∧ V.verifyKey a msg sgn = true := by
  unfold verify
  split
  · next a ha => simp [ha]
  · next ha => simp [ha]

theorem lt_nodeCount_of_verify (h : V.verify msg sgn index = true) : index < V.nodeCount := by
  obtain ⟨a, ha, -⟩ := verify_eq_true.1 h
  exact (List.getElem?_eq_some_iff.1 ha).1

theorem isComplete_eq_true {signatures : NodeMap S} :
    V.isComplete msg signatures = true ↔
      V.threshold ≤ signatures.iter.length ∧ ∀ e ∈ signatures.iter, V.verify msg e.2 e.1 = true := by
  unfold isComplete
  by_cases hlt : signatures.iter.length < V.threshold
  · simp only [hlt, if_true, Bool.false_eq_true, false_iff, not_and]
    exact fun hle => absurd hlt (Nat.not_lt.2 hle)
  · simp only [hlt, if_false, List.all_eq_true]
    exact ⟨fun h => ⟨Nat.not_lt.1 hlt, h⟩, fun h => h.2⟩

theorem signers_of_isComplete {signatures : NodeMap S} (h : V.isComplete msg signatures = true) :
    V.threshold ≤ (signers signatures).card ∧ signers signatures ⊆ Finset.range V.nodeCount ∧
      ∀ k ∈ signers signatures, ∃ sgn, V.verify msg sgn k = true := by
  obtain ⟨hcount, hall⟩ := isComplete_eq_true.1 h
  have hmem : ∀ k ∈ signers signatures, ∃ sgn, V.verify msg sgn k = true := by
    intro k hk
    obtain ⟨e, he, rfl⟩ := List.mem_map.1 (List.mem_toFinset.1 hk)
    exact ⟨e.2, hall e he⟩
  refine ⟨?_, fun k hk => ?_, hmem⟩
  · rw [signers, List.toFinset_card_of_nodup (NodeMap.nodup_map_fst_iter _), List.length_map]
    exact hcount
  · obtain ⟨sgn, hv⟩ := hmem k hk
    exact Finset.mem_range.2 (lt_nodeCount_of_verify hv)

end AuthorityVerifier

variable [DecidableEq H] [DecidableEq B] (V : AuthorityVerifier A B S) (hash : H → B)
  (signerOf : Nat → Signer (keychainConfig V hash)) {c : Committee (keychainConfig V hash)}

/-- In every run of the committee's reliable multicast, whatever messages its
nodes are handed, two hashes returned at any two nodes were both signed by
one member outside any given set of fewer than a third of the committee: its
authority key verifies a signature of each. -/
theorem returned_hashes_share_a_correct_signer (hc : Reachable (system (keychainConfig V hash) signerOf) c)
    {i j : Nat} {x y : H} (hx : x ∈ c.returned i) (hy : y ∈ c.returned j) (F : Finset Nat)
    (hF : 3 * F.card < V.nodeCount) :
    ∃ k ∉ F, ∃ a, V.authorities[k]? = some a ∧ (∃ sx, V.verifyKey a (hash x) sx = true) ∧
      ∃ sy, V.verifyKey a (hash y) sy = true := by
  have hcons := consistent_reachable signerOf c hc
  obtain ⟨mx, -, rfl⟩ := (hcons i).mem_returned_iff.1 hx
  obtain ⟨my, -, rfl⟩ := (hcons j).mem_returned_iff.1 hy
  obtain ⟨hx₁, hx₂, hx₃⟩ := AuthorityVerifier.signers_of_isComplete mx.complete
  obtain ⟨hy₁, hy₂, hy₃⟩ := AuthorityVerifier.signers_of_isComplete my.complete
  -- two sets of more than two thirds meet outside any third
  have hcard : (Finset.range V.nodeCount).card + F.card <
      (signers mx.unchecked.signature).card + (signers my.unchecked.signature).card := by
    have hoverlap := Quorum.two_thirds_quorums_overlap hF
    rw [Finset.card_range]
    unfold AuthorityVerifier.threshold at hx₁ hy₁
    omega
  obtain ⟨k, hkx, hky, hkF⟩ := Quorum.exists_mem_inter_not_mem hx₂ hy₂ hcard
  obtain ⟨sx, hsx⟩ := hx₃ k hkx
  obtain ⟨sy, hsy⟩ := hy₃ k hky
  obtain ⟨a, ha, hax⟩ := AuthorityVerifier.verify_eq_true.1 hsx
  obtain ⟨a', ha', hay⟩ := AuthorityVerifier.verify_eq_true.1 hsy
  obtain rfl : a = a' := Option.some_inj.1 (ha.symm.trans ha')
  exact ⟨k, hkF, a, ha, ⟨sx, hax⟩, sy, hay⟩

namespace Reference

/-- Four authorities; the key of authority `a` accepts `10 * b + a` for the
bytes `b`. -/
def referenceVerifier : AuthorityVerifier Nat Nat Nat := ⟨List.range 4, fun a b sgn => sgn == 10 * b + a⟩

def referenceSigner (i : Nat) : Signer (keychainConfig referenceVerifier fun b : Nat => b) :=
  ⟨i % 4, fun b => 10 * b + i % 4, fun b => by
    simp [keychainConfig, AuthorityVerifier.verify, referenceVerifier, List.getElem?_range (Nat.mod_lt i (by decide : 0 < 4))]⟩

/-- Authorities 0, 1 and 2 start an RMC of the hash 7, and node 3 is handed
their signed hashes. -/
def finalized : Committee (keychainConfig referenceVerifier fun b : Nat => b) :=
  (system _ referenceSigner).run ⟨fun _ => .new, fun _ => []⟩
    [.startRmc 0 7, .startRmc 1 7, .startRmc 2 7, .processMessage 3 (.signedHash ⟨⟨7, 0⟩, 70⟩),
      .processMessage 3 (.signedHash ⟨⟨7, 1⟩, 71⟩), .processMessage 3 (.signedHash ⟨⟨7, 2⟩, 72⟩)]

theorem finalized_reachable : Reachable (system _ referenceSigner) finalized := by
  have hinit : (system _ referenceSigner).init ⟨fun _ => .new, fun _ => []⟩ := ⟨rfl, rfl⟩
  exact (Reachable.init hinit).run _

/-- The hash node 3 returned was signed by a member other than node 3. -/
theorem finalized_signed_by_another_member :
    ∃ k ∉ ({3} : Finset Nat), ∃ a, referenceVerifier.authorities[k]? = some a ∧
      (∃ sx, referenceVerifier.verifyKey a 7 sx = true) ∧ ∃ sy, referenceVerifier.verifyKey a 7 sy = true :=
  returned_hashes_share_a_correct_signer referenceVerifier (fun b => b) referenceSigner finalized_reachable
    (i := 3) (j := 3) (by decide) (by decide) {3} (by decide)

end Reference

/-! ## A quorum of signed hashes -/

theorem signatureSets_reachable :
    Invariant (system (keychainConfig V hash) signerOf) fun c => ∀ node x u,
      (c.services node).handler.hashStates x = some (.incomplete u) →
        u.signature.size = V.nodeCount ∧ ∀ k sgn, u.signature.get k = some sgn → V.verify (hash x) sgn k = true := by
  refine incomplete_reachable signerOf
    (fun x m => m.size = V.nodeCount ∧ ∀ k sgn, m.get k = some sgn → V.verify (hash x) sgn k = true)
    (fun x sgn k hv => ⟨?_, fun j s hj => ?_⟩)
    (fun x m sgn k hm hv => ⟨?_, fun j s hj => ?_⟩)
  · show ((NodeMap.withSize V.nodeCount : NodeMap S).insert k sgn).size = V.nodeCount
    rw [NodeMap.size_insert]
    simp [NodeMap.withSize, NodeMap.size]
  · -- the bootstrap holds the one signature it starts from
    have hk : k < (NodeMap.withSize V.nodeCount : NodeMap S).size := by
      simpa [NodeMap.withSize, NodeMap.size] using AuthorityVerifier.lt_nodeCount_of_verify hv
    by_cases hjk : k = j
    · subst hjk
      rw [keychainConfig, NodeMap.get_insert_self sgn hk, Option.some_inj] at hj
      exact hj ▸ hv
    · simp [keychainConfig, NodeMap.get_insert_ne sgn hjk] at hj
  · simpa [keychainConfig] using hm.1
  · by_cases hjk : k = j
    · subst hjk
      have hk : k < m.size := hm.1 ▸ AuthorityVerifier.lt_nodeCount_of_verify hv
      rw [keychainConfig, NodeMap.get_insert_self sgn hk, Option.some_inj] at hj
      exact hj ▸ hv
    · rw [keychainConfig, NodeMap.get_insert_ne sgn hjk] at hj
      exact hm.2 j s hj

/-- The state a node keeps for a hash holds a signature of node `k`, or is
complete. -/
def Holds (p : Option (PartiallyMultisigned (keychainConfig V hash))) (k : Nat) : Prop :=
  match p with
  | some (.complete _) => True
  | some (.incomplete u) => (u.signature.get k).isSome
  | none => False

variable {V hash}

omit [DecidableEq H] [DecidableEq B] in
theorem holds_ofUnchecked {u : UncheckedSigned H (NodeMap S)} {k : Nat} (h : (u.signature.get k).isSome) :
    Holds V hash (some (.ofUnchecked _ u)) k := by
  unfold PartiallyMultisigned.ofUnchecked
  split
  · trivial
  · exact h

omit [DecidableEq H] [DecidableEq B] in
theorem Holds.stateStep {x : H} {p p' : Option (PartiallyMultisigned (keychainConfig V hash))} {k : Nat}
    (hstep : StateStep _ x p p') (h : Holds V hash p k) : Holds V hash p' k := by
  cases hstep with
  | same => exact h
  | complete => trivial
  | bootstrap => exact h.elim
  | add u sgn j hv => exact holds_ofUnchecked (NodeMap.isSome_get_insert sgn h)

theorem holds_processMessage_signedHash (hc : Reachable (system (keychainConfig V hash) signerOf) c) (node : Nat)
    {x : H} {k : Nat} {sgn : S} (hv : V.verify (hash x) sgn k = true) :
    Holds V hash (((c.services node).processMessage (.signedHash ⟨⟨x, k⟩, sgn⟩)).2.handler.hashStates x) k := by
  have hk := AuthorityVerifier.lt_nodeCount_of_verify hv
  rcases (consistent_reachable signerOf c hc node).processMessage_signedHash (x := x) hv with
    ⟨m, hm⟩ | ⟨-, hp⟩ | ⟨u, hu, hp⟩
  · rw [hm]
    trivial
  · rw [hp]
    refine holds_ofUnchecked ?_
    have hsize : k < (NodeMap.withSize V.nodeCount : NodeMap S).size := by
      simpa [NodeMap.withSize, NodeMap.size] using hk
    simp [keychainConfig, NodeMap.get_insert_self sgn hsize]
  · -- the incomplete set spans the committee, so the signature lands in it
    rw [hp]
    refine holds_ofUnchecked ?_
    have hsize : k < u.signature.size := (signatureSets_reachable V hash signerOf c hc node x u hu).1 ▸ hk
    simp [keychainConfig, NodeMap.get_insert_self sgn hsize]

theorem holds_run (node : Nat) (x : H) (k : Nat) :
    ∀ (calls : List (Call H S (NodeMap S))) {c : Committee (keychainConfig V hash)},
      Reachable (system (keychainConfig V hash) signerOf) c →
      (Holds V hash ((c.services node).handler.hashStates x) k ∨
        ∃ sgn, V.verify (hash x) sgn k = true ∧ Call.processMessage node (.signedHash ⟨⟨x, k⟩, sgn⟩) ∈ calls) →
      Holds V hash (((system (keychainConfig V hash) signerOf).run c calls).services node |>.handler.hashStates x) k
  | [], _, _, h => h.resolve_right fun ⟨_, _, hmem⟩ => List.not_mem_nil hmem
  | call :: calls, c, hc, h => by
      obtain ⟨c', hstep⟩ : ∃ c', (system (keychainConfig V hash) signerOf).step c call = some c' := by
        cases call <;> exact ⟨_, rfl⟩
      rw [System.run, hstep, Option.getD_some]
      refine holds_run node x k calls (.step call hc hstep) ?_
      rcases h with hold | ⟨sgn, hv, hmem⟩
      · exact .inl (Holds.stateStep ((consistent_reachable signerOf c hc).stateStep signerOf hstep node x) hold)
      · rcases List.mem_cons.1 hmem with rfl | hmem
        · -- the call itself hands the signed hash to the node
          cases hstep
          left
          simpa only [Committee.record, Function.update_self] using
            holds_processMessage_signedHash signerOf hc node hv
        · exact .inr ⟨sgn, hv, hmem⟩

variable (V hash)

/-- In every run of the committee's reliable multicast, a node that is handed
verified signed hashes of one hash by more than two thirds of the committee,
among any other calls in any order, has returned the hash at the end. -/
theorem signed_by_quorum_returns (hc : Reachable (system (keychainConfig V hash) signerOf) c)
    (calls : List (Call H S (NodeMap S))) (node : Nat) (x : H) (Q : Finset Nat) (hQ : V.threshold ≤ Q.card)
    (hsigned : ∀ k ∈ Q, ∃ sgn, V.verify (hash x) sgn k = true ∧
      Call.processMessage node (.signedHash ⟨⟨x, k⟩, sgn⟩) ∈ calls) :
    x ∈ ((system (keychainConfig V hash) signerOf).run c calls).returned node := by
  have hholds : ∀ k ∈ Q, Holds V hash
      ((((system (keychainConfig V hash) signerOf).run c calls).services node).handler.hashStates x) k :=
    fun k hk => holds_run signerOf node x k calls hc (.inr (hsigned k hk))
  have hc' := hc.run calls
  generalize (system (keychainConfig V hash) signerOf).run c calls = c' at hc' hholds ⊢
  have hcons := consistent_reachable signerOf c' hc' node
  obtain ⟨k₀, hk₀⟩ : Q.Nonempty := Finset.card_pos.1 (Nat.lt_of_lt_of_le (Nat.succ_pos _) hQ)
  cases hp : (c'.services node).handler.hashStates x with
  | none =>
      have h₀ := hholds k₀ hk₀
      rw [hp] at h₀
      exact h₀.elim
  | some p =>
      cases p with
      | complete m => exact hcons.mem_returned_iff.2 ⟨m, hp, (hcons.handler x _ hp).asSignable_eq⟩
      | incomplete u =>
          exfalso
          have hu : u.signable = x := (hcons.handler x _ hp).asSignable_eq
          obtain ⟨-, hverified⟩ := signatureSets_reachable V hash signerOf c' hc' node x u hp
          have hentries : ∀ k ∈ Q, (u.signature.get k).isSome := fun k hk => by
            have h := hholds k hk
            rwa [hp] at h
          have hcount : Q.card ≤ u.signature.iter.length := by
            have hle := NodeMap.length_le_countP (p := fun _ => true) Q.nodup_toList fun k hk => by
              obtain ⟨s, hs⟩ := Option.isSome_iff_exists.1 (hentries k (Finset.mem_toList.1 hk))
              exact ⟨s, hs, rfl⟩
            rw [Finset.length_toList, ← NodeMap.length_filter_iter, List.filter_true] at hle
            exact hle
          have hcomplete : V.isComplete (hash x) u.signature = true :=
            AuthorityVerifier.isComplete_eq_true.2 ⟨hQ.trans hcount, fun e he =>
              hverified e.1 e.2 (NodeMap.mem_iter.1 he)⟩
          have hincomplete := (hcons.handler x _ hp).incomplete u rfl
          rw [hu] at hincomplete
          exact absurd hcomplete (by simpa [keychainConfig] using hincomplete)

namespace Reference

/-- Node 3 is handed the signed hashes of 7 by authorities 0, 1 and 2, and
nothing else: it returns 7. -/
theorem quorum_returns_reference :
    7 ∈ ((system _ referenceSigner).run ⟨fun _ => .new, fun _ => []⟩
      [.processMessage 3 (.signedHash ⟨⟨7, 0⟩, 70⟩), .processMessage 3 (.signedHash ⟨⟨7, 1⟩, 71⟩),
        .processMessage 3 (.signedHash ⟨⟨7, 2⟩, 72⟩)]).returned 3 := by
  have hinit : (system _ referenceSigner).init ⟨fun _ => .new, fun _ => []⟩ := ⟨rfl, rfl⟩
  refine signed_by_quorum_returns referenceVerifier (fun b => b) referenceSigner (.init hinit) _ 3 7 {0, 1, 2}
    (by decide) ?_
  intro k hk
  simp only [Finset.mem_insert, Finset.mem_singleton] at hk
  rcases hk with rfl | rfl | rfl
  · exact ⟨70, by decide, by simp⟩
  · exact ⟨71, by decide, by simp⟩
  · exact ⟨72, by decide, by simp⟩

end Reference

end Setheum.Finality
