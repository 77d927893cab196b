import Setheum.SetBft.Alerts

/-!
# Reliable multicast

`set_bft_rmc::Handler` keeps, for each hash, the partial multisignature it has
collected. A hash is returned multisigned when the signature just added makes
its multisignature complete for the keychain, or when a complete multisignature
of it arrives, unless it was completed before. `Service` drives the handler:
it hands every signed or multisigned hash to its `DoublingDelayScheduler`,
which keeps each task and sends it again and again; here the scheduler is the
list of its tasks, without the delays.

The committee is a network of such services, one per node, each with its own
signing key. Any node may be handed any message, at any time: one another node
scheduled, or one a faulty node made up. Over every run, each node returns
each hash at most once and exactly the hashes it holds complete, and keeps a
complete multisignature of each scheduled, so that every node it reaches
returns the hash too.

Keys, signatures and partial multisignatures are parameters: verification of a
node's signature of the bytes of a hash, `bootstrap_multi`,
`PartialMultisignature::add_signature` and `is_complete`.
-/

namespace Setheum.SetBft.Rmc

open Transition
open Alerts (Indexed RmcMessage)

variable {H B S M : Type}

/-- What every node's `MultiKeychain` shares: the committee's verification of
a node's signature of some bytes, the partial multisignatures, and the hash
of a `Signable`. -/
structure Config (H B S M : Type) where
  verify : B → S → Nat → Bool
  bootstrapMulti : S → Nat → M
  addSignature : M → S → Nat → M
  isComplete : B → M → Bool
  hash : H → B

/-- A node's own part of its keychain: its index and its signing key, whose
signatures verify for its index. -/
structure Signer (T : Config H B S M) where
  index : Nat
  sign : B → S
  sign_verifies : ∀ msg, T.verify msg (sign msg) index = true

/-- `Signed<Indexed<H>, MK>`: a hash signed by the node of its index. -/
structure SignedHash (T : Config H B S M) where
  unchecked : UncheckedSigned (Indexed H) S
  verified : T.verify (T.hash unchecked.signable.signable) unchecked.signature unchecked.signable.index = true

/-- `Multisigned<H, MK>`: a hash with a complete multisignature. -/
structure Multisigned (T : Config H B S M) where
  unchecked : UncheckedSigned H M
  complete : T.isComplete (T.hash unchecked.signable) unchecked.signature = true

/-- `PartiallyMultisigned<H, MK>`. -/
inductive PartiallyMultisigned (T : Config H B S M) where
  | incomplete (unchecked : UncheckedSigned H M)
  | complete (multisigned : Multisigned T)

variable (T : Config H B S M)

namespace SignedHash

variable {T}

def hash (signed : SignedHash T) : H := signed.unchecked.signable.signable

def index (signed : SignedHash T) : Nat := signed.unchecked.signable.index

end SignedHash

/-- `Signed::sign_with_index`. -/
def signWithIndex (signer : Signer T) (hash : H) : SignedHash T :=
  ⟨⟨⟨hash, signer.index⟩, signer.sign (T.hash hash)⟩, signer.sign_verifies _⟩

/-- `UncheckedSigned::check` of a signed hash. -/
def check (unchecked : UncheckedSigned (Indexed H) S) :
    Except (UncheckedSigned (Indexed H) S) (SignedHash T) :=
  if h : T.verify (T.hash unchecked.signable.signable) unchecked.signature unchecked.signable.index = true then
    .ok ⟨unchecked, h⟩
  else .error unchecked

/-- `UncheckedSigned::check_multi`. -/
def checkMulti (unchecked : UncheckedSigned H M) : Except (UncheckedSigned H M) (Multisigned T) :=
  if h : T.isComplete (T.hash unchecked.signable) unchecked.signature = true then .ok ⟨unchecked, h⟩
  else .error unchecked

variable {T} in
theorem checkMulti_eq_ok {unchecked : UncheckedSigned H M} {multisigned : Multisigned T}
    (h : checkMulti T unchecked = .ok multisigned) : multisigned.unchecked = unchecked := by
  unfold checkMulti at h
  split at h
  · cases h
    rfl
  · cases h

variable {T} in
theorem checkMulti_multisigned (m : Multisigned T) : checkMulti T m.unchecked = .ok m := by
  unfold checkMulti
  rw [dif_pos m.complete]

namespace PartiallyMultisigned

/-- The completeness check that `into_partially_multisigned` and
`add_signature` end with. -/
def ofUnchecked (unchecked : UncheckedSigned H M) : PartiallyMultisigned T :=
  if h : T.isComplete (T.hash unchecked.signable) unchecked.signature = true then .complete ⟨unchecked, h⟩
  else .incomplete unchecked

variable {T}

def isComplete : PartiallyMultisigned T → Bool
  | .incomplete _ => false
  | .complete _ => true

def asSignable : PartiallyMultisigned T → H
  | .incomplete unchecked => unchecked.signable
  | .complete multisigned => multisigned.unchecked.signable

/-- The multisigned hash of a complete partial multisignature. -/
def multisigned? : PartiallyMultisigned T → Option (Multisigned T)
  | .incomplete _ => none
  | .complete multisigned => some multisigned

variable [DecidableEq B]

/-- `add_signature`: a signature of another hash is dropped with a warning, and
a complete multisignature stays as it is. -/
def addSignature (p : PartiallyMultisigned T) (signed : SignedHash T) : PartiallyMultisigned T :=
  if T.hash p.asSignable ≠ T.hash signed.hash then p
  else
    match p with
    | .incomplete unchecked =>
      ofUnchecked T { unchecked with
        signature := T.addSignature unchecked.signature signed.unchecked.signature signed.index }
    | .complete _ => p

end PartiallyMultisigned

/-- `into_partially_multisigned`. -/
def SignedHash.intoPartiallyMultisigned (signed : SignedHash T) : PartiallyMultisigned T :=
  .ofUnchecked T ⟨signed.hash, T.bootstrapMulti signed.unchecked.signature signed.index⟩

/-! ## The handler -/

structure Handler (T : Config H B S M) where
  hashStates : H → Option (PartiallyMultisigned T)

inductive Error where
  | badSignature
  | badMultisignature
  deriving DecidableEq

inductive OnStartRmcResponse (T : Config H B S M) where
  | signedHash (signed : SignedHash T)
  | multisignedHash (multisigned : Multisigned T)
  | noop

namespace Handler

variable {T} [DecidableEq H] [DecidableEq B]

def new : Handler T := ⟨fun _ => none⟩

def alreadyCompleted (h : Handler T) (hash : H) : Bool :=
  match h.hashStates hash with
  | some (.complete _) => true
  | _ => false

/-- The state of a signed hash's hash once the signature is added. -/
def newState (h : Handler T) (signed : SignedHash T) : PartiallyMultisigned T :=
  match h.hashStates signed.hash with
  | none => signed.intoPartiallyMultisigned
  | some existing => existing.addSignature signed

/-- `handle_signed_hash`. -/
def handleSignedHash (h : Handler T) (signed : SignedHash T) : Option (Multisigned T) × Handler T :=
  let hash := signed.hash
  match h.newState signed with
  | .complete multisigned =>
    (some multisigned, ⟨Function.update h.hashStates hash (some (.complete multisigned))⟩)
  | incomplete => (none, ⟨Function.update h.hashStates hash (some incomplete)⟩)

/-- `on_start_rmc`. -/
def onStartRmc (h : Handler T) (signer : Signer T) (hash : H) : OnStartRmcResponse T × Handler T :=
  let signedHash := signWithIndex T signer hash
  if h.alreadyCompleted hash then (.noop, h)
  else
    match h.handleSignedHash signedHash with
    | (some multisigned, h) => (.multisignedHash multisigned, h)
    | (none, h) => (.signedHash signedHash, h)

/-- `on_signed_hash`. -/
def onSignedHash (h : Handler T) (unchecked : UncheckedSigned (Indexed H) S) :
    Except Error (Option (Multisigned T)) × Handler T :=
  match check T unchecked with
  | .error _ => (.error .badSignature, h)
  | .ok signedHash =>
    if h.alreadyCompleted signedHash.hash then (.ok none, h)
    else
      let r := h.handleSignedHash signedHash
      (.ok r.1, r.2)

/-- `on_multisigned_hash`. -/
def onMultisignedHash (h : Handler T) (unchecked : UncheckedSigned H M) :
    Except Error (Option (Multisigned T)) × Handler T :=
  if h.alreadyCompleted unchecked.signable then (.ok none, h)
  else
    match checkMulti T unchecked with
    | .error _ => (.error .badMultisignature, h)
    | .ok multisigned =>
      (.ok (some multisigned),
        ⟨Function.update h.hashStates multisigned.unchecked.signable (some (.complete multisigned))⟩)

end Handler

/-! ## The service -/

/-- `rmc::Service`: the handler and the tasks of its scheduler. -/
structure Service (T : Config H B S M) where
  handler : Handler T
  scheduled : List (RmcMessage H S M)

namespace Service

variable {T} [DecidableEq H] [DecidableEq B]

def new : Service T := ⟨.new, []⟩

/-- `TaskScheduler::add_task`. -/
def addTask (s : Service T) (task : RmcMessage H S M) : Service T :=
  { s with scheduled := s.scheduled ++ [task] }

/-- `start_rmc`. -/
def startRmc (s : Service T) (signer : Signer T) (hash : H) : Option (Multisigned T) × Service T :=
  let r := s.handler.onStartRmc signer hash
  let s := { s with handler := r.2 }
  match r.1 with
  | .signedHash signedHash => (none, s.addTask (.signedHash signedHash.unchecked))
  | .multisignedHash multisigned => (some multisigned, s.addTask (.multisignedHash multisigned.unchecked))
  | .noop => (none, s)

/-- What both branches of `process_message` do with the handler's answer: a
new multisigned hash is scheduled and returned, an error is only logged. -/
def yieldMultisigned (s : Service T) : Except Error (Option (Multisigned T)) → Option (Multisigned T) × Service T
  | .ok (some multisigned) => (some multisigned, s.addTask (.multisignedHash multisigned.unchecked))
  | _ => (none, s)

/-- `process_message`. -/
def processMessage (s : Service T) (message : RmcMessage H S M) : Option (Multisigned T) × Service T :=
  match message with
  | .signedHash unchecked =>
    let r := s.handler.onSignedHash unchecked
    ({ s with handler := r.2 } : Service T).yieldMultisigned r.1
  | .multisignedHash unchecked =>
    let r := s.handler.onMultisignedHash unchecked
    ({ s with handler := r.2 } : Service T).yieldMultisigned r.1

end Service

/-! ## The committee -/

/-- Each node's service, and the hashes each has returned, in order. -/
structure Committee (T : Config H B S M) where
  services : Nat → Service T
  returned : Nat → List H

/-- A node starts an RMC, or processes a message it was handed. -/
inductive Call (H S M : Type) where
  | startRmc (node : Nat) (hash : H)
  | processMessage (node : Nat) (message : RmcMessage H S M)

/-- The hash of a returned multisigned hash. -/
def returnedHash : Option (Multisigned T) → List H
  | some multisigned => [multisigned.unchecked.signable]
  | none => []

section Committee

variable {T} [DecidableEq H] [DecidableEq B]

/-- A node's service after a call, with what the call returned. -/
def Committee.record (c : Committee T) (node : Nat) (r : Option (Multisigned T) × Service T) : Committee T :=
  ⟨Function.update c.services node r.2, Function.update c.returned node (c.returned node ++ returnedHash T r.1)⟩

variable (T) (signers : Nat → Signer T)

def step (c : Committee T) : Call H S M → Option (Committee T)
  | .startRmc node hash => some (c.record node ((c.services node).startRmc (signers node) hash))
  | .processMessage node message => some (c.record node ((c.services node).processMessage message))

def system : System (Committee T) (Call H S M) where
  init c := c.services = (fun _ => .new) ∧ c.returned = fun _ => []
  step := step T signers

end Committee

/-! ## What a handler keeps -/

namespace PartiallyMultisigned

variable {T}

/-- A state kept for the hash `x`: it is about `x`, and it is complete when
its multisignature is. -/
structure Valid (x : H) (p : PartiallyMultisigned T) : Prop where
  asSignable_eq : p.asSignable = x
  incomplete : ∀ u, p = .incomplete u → T.isComplete (T.hash u.signable) u.signature = false

theorem valid_ofUnchecked (u : UncheckedSigned H M) : (ofUnchecked T u).Valid u.signable := by
  unfold ofUnchecked
  split
  · exact ⟨rfl, fun _ h => nomatch h⟩
  · next hc =>
      refine ⟨rfl, fun v hv => ?_⟩
      cases hv
      simpa using hc

theorem valid_complete (m : Multisigned T) : (complete m).Valid m.unchecked.signable :=
  ⟨rfl, fun _ h => nomatch h⟩

theorem ofUnchecked_eq_incomplete {u u' : UncheckedSigned H M} (h : ofUnchecked T u = .incomplete u') : u = u' := by
  unfold ofUnchecked at h
  split at h
  · cases h
  · cases h
    rfl

theorem returnedHash_multisigned? {x : H} {p : PartiallyMultisigned T} (hp : p.Valid x) :
    returnedHash T p.multisigned? = if p.isComplete then [x] else [] := by
  cases p with
  | incomplete u => rfl
  | complete m =>
      have hx : m.unchecked.signable = x := hp.asSignable_eq
      simp [multisigned?, returnedHash, isComplete, hx]

theorem Valid.addSignature [DecidableEq B] {x : H} {p : PartiallyMultisigned T} (hp : p.Valid x)
    (signed : SignedHash T) : (p.addSignature signed).Valid x := by
  unfold PartiallyMultisigned.addSignature
  split
  · exact hp
  · cases p with
    | incomplete u =>
        obtain rfl : u.signable = x := hp.asSignable_eq
        exact valid_ofUnchecked (T := T)
          { u with signature := T.addSignature u.signature signed.unchecked.signature signed.index }
    | complete m => exact hp

end PartiallyMultisigned

namespace Handler

variable {T} {h : Handler T}

/-- Every state the handler keeps is valid for the hash it is kept under. -/
def Consistent (h : Handler T) : Prop := ∀ x p, h.hashStates x = some p → p.Valid x

theorem consistent_new : (new : Handler T).Consistent := fun _ _ h => nomatch h

theorem alreadyCompleted_iff {x : H} : h.alreadyCompleted x = true ↔ ∃ m, h.hashStates x = some (.complete m) := by
  unfold alreadyCompleted
  split
  · next m hm => exact iff_of_true rfl ⟨m, hm⟩
  · next hnot =>
      refine iff_of_false Bool.false_ne_true ?_
      rintro ⟨m, hm⟩
      exact hnot m hm

section Update

variable [DecidableEq H]

theorem Consistent.update (hc : h.Consistent) {x : H} {p : PartiallyMultisigned T} (hp : p.Valid x) :
    (⟨Function.update h.hashStates x (some p)⟩ : Handler T).Consistent := by
  intro y q hy
  by_cases hyx : y = x
  · subst hyx
    simp only [Function.update_self, Option.some_inj] at hy
    exact hy ▸ hp
  · simp only [Function.update_of_ne hyx] at hy
    exact hc y q hy

theorem alreadyCompleted_update (x : H) (p : PartiallyMultisigned T) (y : H) :
    (⟨Function.update h.hashStates x (some p)⟩ : Handler T).alreadyCompleted y =
      if y = x then p.isComplete else h.alreadyCompleted y := by
  by_cases hyx : y = x
  · subst hyx
    cases p <;> simp [alreadyCompleted, PartiallyMultisigned.isComplete]
  · simp only [alreadyCompleted, Function.update_of_ne hyx, if_neg hyx]

variable [DecidableEq B]

theorem handleSignedHash_eq (signed : SignedHash T) :
    h.handleSignedHash signed =
      ((h.newState signed).multisigned?, ⟨Function.update h.hashStates signed.hash (some (h.newState signed))⟩) := by
  unfold handleSignedHash
  cases h.newState signed <;> rfl

end Update

theorem valid_newState [DecidableEq B] (hc : h.Consistent) (signed : SignedHash T) :
    (h.newState signed).Valid signed.hash := by
  unfold newState
  split
  · exact PartiallyMultisigned.valid_ofUnchecked (T := T)
      ⟨signed.hash, T.bootstrapMulti signed.unchecked.signature signed.index⟩
  · next p hp => exact (hc _ _ hp).addSignature signed

theorem newState_cases [DecidableEq B] (hc : h.Consistent) {signed : SignedHash T} (hx : h.alreadyCompleted signed.hash = false) :
    (h.hashStates signed.hash = none ∧
        h.newState signed = .ofUnchecked T ⟨signed.hash, T.bootstrapMulti signed.unchecked.signature signed.index⟩) ∨
      ∃ u, h.hashStates signed.hash = some (.incomplete u) ∧
        h.newState signed = .ofUnchecked T
          { u with signature := T.addSignature u.signature signed.unchecked.signature signed.index } := by
  unfold newState
  split
  · next hnone => exact .inl ⟨hnone, rfl⟩
  · next p hp =>
      cases p with
      | complete m =>
          simp [alreadyCompleted, hp] at hx
      | incomplete u =>
          have hu : u.signable = signed.hash := (hc _ _ hp).asSignable_eq
          refine .inr ⟨u, hp, ?_⟩
          simp [PartiallyMultisigned.addSignature, PartiallyMultisigned.asSignable, hu]

end Handler

/-! ## What a service keeps -/

namespace Service

variable {T} {s : Service T} {returned : List H}

/-- A service's handler is consistent, the service has returned each hash at
most once and exactly the completed ones, and it keeps each complete
multisignature scheduled. -/
structure Consistent (s : Service T) (returned : List H) : Prop where
  handler : s.handler.Consistent
  completed_iff : ∀ x, s.handler.alreadyCompleted x = true ↔ x ∈ returned
  nodup : returned.Nodup
  scheduled : ∀ x m, s.handler.hashStates x = some (.complete m) →
    RmcMessage.multisignedHash m.unchecked ∈ s.scheduled

theorem consistent_new : (new : Service T).Consistent [] where
  handler := Handler.consistent_new
  completed_iff _ := iff_of_false Bool.false_ne_true List.not_mem_nil
  nodup := List.nodup_nil
  scheduled _ _ h := nomatch h

theorem Consistent.mem_returned_iff (hs : s.Consistent returned) {x : H} :
    x ∈ returned ↔ ∃ m : Multisigned T, s.handler.hashStates x = some (.complete m) ∧ m.unchecked.signable = x := by
  rw [← hs.completed_iff, Handler.alreadyCompleted_iff]
  constructor
  · rintro ⟨m, hm⟩
    exact ⟨m, hm, (hs.handler x _ hm).asSignable_eq⟩
  · rintro ⟨m, hm, -⟩
    exact ⟨m, hm⟩

theorem Consistent.unchanged (hs : s.Consistent returned) :
    ({ s with handler := s.handler } : Service T).Consistent (returned ++ returnedHash T none) := by
  simpa [returnedHash] using hs

section Store

variable [DecidableEq H]

/-- Storing a valid state for a hash not completed before, with its
multisignature scheduled if it is complete, keeps a service consistent once
the hash is returned if complete. -/
theorem Consistent.store (hs : s.Consistent returned) {x : H} (hx : s.handler.alreadyCompleted x = false)
    {p : PartiallyMultisigned T} (hp : p.Valid x) {scheduled' : List (RmcMessage H S M)}
    (hsub : s.scheduled ⊆ scheduled')
    (hsched : ∀ m, p = .complete m → RmcMessage.multisignedHash m.unchecked ∈ scheduled') :
    (⟨⟨Function.update s.handler.hashStates x (some p)⟩, scheduled'⟩ : Service T).Consistent
      (returned ++ returnedHash T p.multisigned?) := by
  have hxr : x ∉ returned := fun hmem => by
    rw [← hs.completed_iff, hx] at hmem
    cases hmem
  rw [PartiallyMultisigned.returnedHash_multisigned? hp]
  refine ⟨hs.handler.update hp, fun y => ?_, ?_, fun y m hm => ?_⟩
  · rw [Handler.alreadyCompleted_update]
    by_cases hyx : y = x
    · -- the stored hash is returned exactly when its state is complete
      subst hyx
      cases hc : p.isComplete <;> simp [hxr]
    · simp only [if_neg hyx, hs.completed_iff, List.mem_append]
      split <;> simp [hyx]
  · split
    · refine List.nodup_append.2 ⟨hs.nodup, List.nodup_singleton x, fun a ha b hb hab => hxr ?_⟩
      rw [List.mem_singleton.1 hb] at hab
      exact hab ▸ ha
    · simpa using hs.nodup
  · by_cases hyx : y = x
    · subst hyx
      simp only [Function.update_self, Option.some_inj] at hm
      exact hsched m hm
    · simp only [Function.update_of_ne hyx] at hm
      exact hsub (hs.scheduled y m hm)

variable [DecidableEq B]

theorem Consistent.startRmc (hs : s.Consistent returned) (signer : Signer T) (x : H) :
    (s.startRmc signer x).2.Consistent (returned ++ returnedHash T (s.startRmc signer x).1) := by
  by_cases hx : s.handler.alreadyCompleted x = true
  · -- a completed hash is not signed again
    simp only [Service.startRmc, Handler.onStartRmc, hx, if_true]
    exact hs.unchanged
  · rw [Bool.not_eq_true] at hx
    simp only [Service.startRmc, Handler.onStartRmc, hx, Bool.false_eq_true, if_false, Handler.handleSignedHash_eq]
    have hp := Handler.valid_newState hs.handler (signWithIndex T signer x)
    generalize s.handler.newState (signWithIndex T signer x) = p at hp ⊢
    cases p with
    | incomplete u => exact hs.store hx hp (List.subset_append_left _ _) (fun _ h => nomatch h)
    | complete m =>
        exact hs.store hx hp (List.subset_append_left _ _) (fun m' h => by cases h; simp)

theorem Consistent.processMessage (hs : s.Consistent returned) (message : RmcMessage H S M) :
    (s.processMessage message).2.Consistent (returned ++ returnedHash T (s.processMessage message).1) := by
  cases message with
  | signedHash u =>
      cases hcheck : check T u with
      | error e =>
          simp only [Service.processMessage, Handler.onSignedHash, hcheck, yieldMultisigned]
          exact hs.unchanged
      | ok signed =>
          by_cases hx : s.handler.alreadyCompleted signed.hash = true
          · simp only [Service.processMessage, Handler.onSignedHash, hcheck, hx, if_true, yieldMultisigned]
            exact hs.unchanged
          · rw [Bool.not_eq_true] at hx
            simp only [Service.processMessage, Handler.onSignedHash, hcheck, hx, Bool.false_eq_true, if_false,
              Handler.handleSignedHash_eq]
            have hp := Handler.valid_newState hs.handler signed
            generalize s.handler.newState signed = p at hp ⊢
            cases p with
            | incomplete v => exact hs.store hx hp (List.Subset.refl _) (fun _ h => nomatch h)
            | complete m => exact hs.store hx hp (List.subset_append_left _ _) (fun m' h => by cases h; simp)
  | multisignedHash u =>
      by_cases hx : s.handler.alreadyCompleted u.signable = true
      · simp only [Service.processMessage, Handler.onMultisignedHash, hx, if_true, yieldMultisigned]
        exact hs.unchanged
      · rw [Bool.not_eq_true] at hx
        cases hcheck : checkMulti T u with
        | error e =>
            simp only [Service.processMessage, Handler.onMultisignedHash, hx, Bool.false_eq_true, if_false, hcheck,
              yieldMultisigned]
            exact hs.unchanged
        | ok m =>
            obtain rfl : m.unchecked = u := checkMulti_eq_ok hcheck
            simp only [Service.processMessage, Handler.onMultisignedHash, hx, Bool.false_eq_true, if_false, hcheck,
              yieldMultisigned]
            exact hs.store hx (PartiallyMultisigned.valid_complete m) (List.subset_append_left _ _)
              (fun m' h => by cases h; simp)

theorem Consistent.mem_processMessage_multisigned (hs : s.Consistent returned) (m : Multisigned T) :
    m.unchecked.signable ∈ returned ++ returnedHash T (s.processMessage (.multisignedHash m.unchecked)).1 := by
  by_cases hx : s.handler.alreadyCompleted m.unchecked.signable = true
  · exact List.mem_append_left _ ((hs.completed_iff _).1 hx)
  · rw [Bool.not_eq_true] at hx
    simp only [Service.processMessage, Handler.onMultisignedHash, hx, Bool.false_eq_true, if_false,
      checkMulti_multisigned, yieldMultisigned, returnedHash]
    exact List.mem_append_right _ (List.mem_singleton_self _)

end Store

end Service

/-! ## What a call does to the state of one hash -/

/-- What a call can do to the state a node keeps for the hash `x`: leave it,
complete it, or make it from a verified signature of `x`, the first one or
one more. -/
inductive StateStep (T : Config H B S M) (x : H) :
    Option (PartiallyMultisigned T) → Option (PartiallyMultisigned T) → Prop
  | same (p : Option (PartiallyMultisigned T)) : StateStep T x p p
  | complete (p : Option (PartiallyMultisigned T)) (m : Multisigned T) : StateStep T x p (some (.complete m))
  | bootstrap (sgn : S) (k : Nat) (hv : T.verify (T.hash x) sgn k = true) :
      StateStep T x none (some (.ofUnchecked T ⟨x, T.bootstrapMulti sgn k⟩))
  | add (u : UncheckedSigned H M) (sgn : S) (k : Nat) (hv : T.verify (T.hash x) sgn k = true) :
      StateStep T x (some (.incomplete u))
        (some (.ofUnchecked T { u with signature := T.addSignature u.signature sgn k }))

variable {T} in
theorem Handler.stateStep_handleSignedHash [DecidableEq H] [DecidableEq B] {h : Handler T} (hc : h.Consistent)
    {signed : SignedHash T} (hx : h.alreadyCompleted signed.hash = false) (y : H) :
    StateStep T y (h.hashStates y) ((h.handleSignedHash signed).2.hashStates y) := by
  rw [handleSignedHash_eq]
  by_cases hy : y = signed.hash
  · subst hy
    simp only [Function.update_self]
    rcases newState_cases hc hx with ⟨hnone, heq⟩ | ⟨u, hu, heq⟩
    · rw [hnone, heq]
      exact .bootstrap _ _ signed.verified
    · rw [hu, heq]
      exact .add u _ _ signed.verified
  · simp only [Function.update_of_ne hy]
    exact .same _

namespace Service

variable {T} {s : Service T} {returned : List H}

theorem handler_yieldMultisigned (r : Except Error (Option (Multisigned T))) :
    (s.yieldMultisigned r).2.handler = s.handler := by
  unfold yieldMultisigned
  split <;> rfl

variable [DecidableEq H] [DecidableEq B]

theorem handler_startRmc (signer : Signer T) (x : H) :
    (s.startRmc signer x).2.handler = (s.handler.onStartRmc signer x).2 := by
  unfold startRmc
  dsimp only
  split <;> rfl

theorem Consistent.stateStep_startRmc (hs : s.Consistent returned) (signer : Signer T) (x y : H) :
    StateStep T y (s.handler.hashStates y) ((s.startRmc signer x).2.handler.hashStates y) := by
  rw [handler_startRmc]
  unfold Handler.onStartRmc
  by_cases hx : s.handler.alreadyCompleted x = true
  · rw [if_pos hx]
    exact .same _
  · rw [if_neg hx]
    have hx' : s.handler.alreadyCompleted x = false := by simpa using hx
    have hstep : StateStep T y (s.handler.hashStates y)
        ((s.handler.handleSignedHash (signWithIndex T signer x)).2.hashStates y) :=
      Handler.stateStep_handleSignedHash hs.handler
        (show s.handler.alreadyCompleted (signWithIndex T signer x).hash = false from hx') y
    generalize s.handler.handleSignedHash (signWithIndex T signer x) = r at hstep ⊢
    obtain ⟨_ | m, h'⟩ := r <;> exact hstep

theorem Consistent.stateStep_processMessage (hs : s.Consistent returned) (message : RmcMessage H S M) (y : H) :
    StateStep T y (s.handler.hashStates y) ((s.processMessage message).2.handler.hashStates y) := by
  cases message with
  | signedHash u =>
      simp only [Service.processMessage, handler_yieldMultisigned]
      unfold Handler.onSignedHash
      split
      · exact .same _
      · split
        · exact .same _
        · next hx => exact Handler.stateStep_handleSignedHash hs.handler (by simpa using hx) y
  | multisignedHash u =>
      simp only [Service.processMessage, handler_yieldMultisigned]
      unfold Handler.onMultisignedHash
      split
      · exact .same _
      · split
        · exact .same _
        · next m _ =>
            by_cases hy : y = m.unchecked.signable
            · subst hy
              simp only [Function.update_self]
              exact .complete _ m
            · simp only [Function.update_of_ne hy]
              exact .same _

theorem Consistent.processMessage_signedHash (hs : s.Consistent returned) {x : H} {k : Nat} {sgn : S}
    (hv : T.verify (T.hash x) sgn k = true) :
    (∃ m, (s.processMessage (.signedHash ⟨⟨x, k⟩, sgn⟩)).2.handler.hashStates x = some (.complete m)) ∨
      (s.handler.hashStates x = none ∧ (s.processMessage (.signedHash ⟨⟨x, k⟩, sgn⟩)).2.handler.hashStates x =
        some (.ofUnchecked T ⟨x, T.bootstrapMulti sgn k⟩)) ∨
      ∃ u, s.handler.hashStates x = some (.incomplete u) ∧
        (s.processMessage (.signedHash ⟨⟨x, k⟩, sgn⟩)).2.handler.hashStates x =
          some (.ofUnchecked T { u with signature := T.addSignature u.signature sgn k }) := by
  have hcheck : check T ⟨⟨x, k⟩, sgn⟩ = .ok ⟨⟨⟨x, k⟩, sgn⟩, hv⟩ := dif_pos hv
  simp only [Service.processMessage, handler_yieldMultisigned, Handler.onSignedHash, hcheck]
  split
  · next hx =>
      obtain ⟨m, hm⟩ := Handler.alreadyCompleted_iff.1 hx
      exact .inl ⟨m, hm⟩
  · next hx =>
      rw [Handler.handleSignedHash_eq]
      simp only [SignedHash.hash, Function.update_self]
      rcases Handler.newState_cases hs.handler (by simpa using hx) with ⟨hnone, heq⟩ | ⟨u, hu, heq⟩
      · exact .inr (.inl ⟨hnone, by rw [heq]; rfl⟩)
      · exact .inr (.inr ⟨u, hu, by rw [heq]; rfl⟩)

end Service

/-! ## Every run of the committee -/

namespace Committee

variable {T} {c : Committee T}

/-- Every node's service is consistent with what it has returned. -/
def Consistent (c : Committee T) : Prop := ∀ i, (c.services i).Consistent (c.returned i)

theorem Consistent.record (hc : c.Consistent) {node : Nat} {r : Option (Multisigned T) × Service T}
    (hr : r.2.Consistent (c.returned node ++ returnedHash T r.1)) : (c.record node r).Consistent := by
  intro i
  by_cases hi : i = node
  · subst hi
    simpa only [Committee.record, Function.update_self] using hr
  · simpa only [Committee.record, Function.update_of_ne hi] using hc i

end Committee

variable {T} [DecidableEq H] [DecidableEq B] (signers : Nat → Signer T) {c : Committee T}

theorem Committee.Consistent.step (hc : c.Consistent) (call : Call H S M) {c' : Committee T}
    (h : Rmc.step T signers c call = some c') : c'.Consistent := by
  cases call with
  | startRmc node x =>
      cases h
      exact hc.record ((hc node).startRmc (signers node) x)
  | processMessage node message =>
      cases h
      exact hc.record ((hc node).processMessage message)

theorem consistent_reachable : Invariant (system T signers) Committee.Consistent := by
  apply invariant_of_inductive
  · rintro c ⟨hservices, hreturned⟩ i
    rw [hservices, hreturned]
    exact Service.consistent_new
  · intro c c' call hc h
    exact hc.step signers call h

theorem Committee.Consistent.stateStep (hc : c.Consistent) {call : Call H S M} {c' : Committee T}
    (h : Rmc.step T signers c call = some c') (node : Nat) (x : H) :
    StateStep T x ((c.services node).handler.hashStates x) ((c'.services node).handler.hashStates x) := by
  cases call with
  | startRmc i y =>
      cases h
      by_cases hi : node = i
      · subst hi
        simpa only [Committee.record, Function.update_self] using (hc node).stateStep_startRmc (signers node) y x
      · simp only [Committee.record, Function.update_of_ne hi]
        exact .same _
  | processMessage i message =>
      cases h
      by_cases hi : node = i
      · subst hi
        simpa only [Committee.record, Function.update_self] using (hc node).stateStep_processMessage message x
      · simp only [Committee.record, Function.update_of_ne hi]
        exact .same _

/-- The run lemma for partial multisignatures: a property that the bootstrap
of a verified signature has and that adding a verified signature keeps holds
of every incomplete state any node keeps. -/
theorem incomplete_reachable (G : H → M → Prop)
    (hboot : ∀ x sgn k, T.verify (T.hash x) sgn k = true → G x (T.bootstrapMulti sgn k))
    (hadd : ∀ x m sgn k, G x m → T.verify (T.hash x) sgn k = true → G x (T.addSignature m sgn k)) :
    Invariant (system T signers) fun c => ∀ node x u,
      (c.services node).handler.hashStates x = some (.incomplete u) → G x u.signature := by
  refine invariant_of_inductive_with _ (consistent_reachable signers) ?_ ?_
  · rintro c ⟨hservices, -⟩ node x u hu
    rw [hservices] at hu
    cases hu
  · intro c c' call hc hG h node x u' hu'
    have hold := hG node x
    have hstep := hc.stateStep signers h node x
    generalize (c.services node).handler.hashStates x = p at hstep hold
    generalize (c'.services node).handler.hashStates x = p' at hstep hu'
    cases hstep with
    | same => exact hold u' hu'
    | complete p m => cases hu'
    | bootstrap sgn k hv =>
        obtain rfl := PartiallyMultisigned.ofUnchecked_eq_incomplete (Option.some_inj.1 hu')
        exact hboot x sgn k hv
    | add u sgn k hv =>
        obtain rfl := PartiallyMultisigned.ofUnchecked_eq_incomplete (Option.some_inj.1 hu')
        exact hadd x u.signature sgn k (hold u rfl) hv

/-- In every run of the committee, whatever messages its nodes are handed and
in whatever order, each node returns each hash at most once, and it has
returned exactly the hashes it holds a complete multisignature of: one that
`is_complete` accepts for the hash. -/
theorem rmc_returns_each_hash_once (hc : Reachable (system T signers) c) (node : Nat) :
    (c.returned node).Nodup ∧
      ∀ x, x ∈ c.returned node ↔ ∃ m : Multisigned T,
        (c.services node).handler.hashStates x = some (.complete m) ∧ m.unchecked.signable = x ∧
          T.isComplete (T.hash x) m.unchecked.signature = true := by
  have hs := consistent_reachable signers c hc node
  refine ⟨hs.nodup, fun x => hs.mem_returned_iff.trans ?_⟩
  constructor
  · rintro ⟨m, hm, hx⟩
    exact ⟨m, hm, hx, hx ▸ m.complete⟩
  · rintro ⟨m, hm, hx, -⟩
    exact ⟨m, hm, hx⟩

namespace Reference

/-- Node `i` of four signs the bytes `b` with `10 * b + i`. -/
def referenceVerify (b sgn i : Nat) : Bool := decide (i < 4) && sgn == 10 * b + i

/-- Four nodes with `SignatureSet` partial multisignatures, complete at three
signatures that verify. -/
def referenceConfig : Config Nat Nat Nat (NodeMap Nat) where
  verify := referenceVerify
  bootstrapMulti sgn i := (NodeMap.withSize 4).insert i sgn
  addSignature m sgn i := m.insert i sgn
  isComplete b m := decide (3 ≤ m.iter.length) && m.iter.all fun e => referenceVerify b e.2 e.1
  hash b := b

def referenceSigner (i : Nat) : Signer referenceConfig :=
  ⟨i % 4, fun b => 10 * b + i % 4, fun b => by simp [referenceConfig, referenceVerify, Nat.mod_lt]⟩

/-- Nodes 0, 1 and 2 start an RMC of the hash 7, and node 3 is handed their
signed hashes. -/
def collected : Committee referenceConfig :=
  (system referenceConfig referenceSigner).run ⟨fun _ => .new, fun _ => []⟩
    [.startRmc 0 7, .startRmc 1 7, .startRmc 2 7, .processMessage 3 (.signedHash ⟨⟨7, 0⟩, 70⟩),
      .processMessage 3 (.signedHash ⟨⟨7, 1⟩, 71⟩), .processMessage 3 (.signedHash ⟨⟨7, 2⟩, 72⟩)]

theorem collected_reachable : Reachable (system referenceConfig referenceSigner) collected := by
  have hinit : (system referenceConfig referenceSigner).init ⟨fun _ => .new, fun _ => []⟩ := ⟨rfl, rfl⟩
  exact (Reachable.init hinit).run _

theorem collected_returns_once :
    (collected.returned 3).Nodup ∧
      ∀ x, x ∈ collected.returned 3 ↔ ∃ m : Multisigned referenceConfig,
        (collected.services 3).handler.hashStates x = some (.complete m) ∧ m.unchecked.signable = x ∧
          referenceConfig.isComplete (referenceConfig.hash x) m.unchecked.signature = true :=
  rmc_returns_each_hash_once referenceSigner collected_reachable 3

example : collected.returned 3 = [7] := by decide

end Reference

/-- A node that has returned a hash keeps a complete multisignature of it
among the tasks its scheduler sends again and again, and every node that is
handed that message has returned the hash after it. -/
theorem returned_hash_reaches_every_node (hc : Reachable (system T signers) c) {i : Nat} {x : H}
    (hx : x ∈ c.returned i) :
    ∃ m : Multisigned T, m.unchecked.signable = x ∧
      RmcMessage.multisignedHash m.unchecked ∈ (c.services i).scheduled ∧
      ∀ j, x ∈ ((system T signers).run c [.processMessage j (.multisignedHash m.unchecked)]).returned j := by
  have hcons := consistent_reachable signers c hc
  obtain ⟨m, hm, rfl⟩ := (hcons i).mem_returned_iff.1 hx
  refine ⟨m, rfl, (hcons i).scheduled _ m hm, fun j => ?_⟩
  simpa only [System.run, system, step, Option.getD_some, Committee.record, Function.update_self]
    using (hcons j).mem_processMessage_multisigned m

namespace Reference

/-- The hash node 3 returned reaches every node. -/
theorem collected_hash_reaches_every_node :
    ∃ m : Multisigned referenceConfig, m.unchecked.signable = 7 ∧
      RmcMessage.multisignedHash m.unchecked ∈ (collected.services 3).scheduled ∧
      ∀ j, 7 ∈ ((system referenceConfig referenceSigner).run collected
        [.processMessage j (.multisignedHash m.unchecked)]).returned j :=
  returned_hash_reaches_every_node referenceSigner collected_reachable (by decide)

end Reference

end Setheum.SetBft.Rmc
