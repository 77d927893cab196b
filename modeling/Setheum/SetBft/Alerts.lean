import Setheum.SetBft.Units
import Setheum.Lib.System

/-!
# Fork alerts

`alerts::Handler` keeps the forkers it knows with their proofs, the alerts it
knows by hash, and for each (sender, forker) pair the hash of the alert whose
reliable multicast (RMC) it takes part in. Its own alerts and valid alerts
from the network register an RMC; a confirmed RMC hands the alert's committed
units to the consensus. The handler's replies carry what the alerts service
sends: the signed alert goes to everyone, an alert request to the node that
sent the RMC message, a copy of an alert to the node that asked.

Signing, verification and hashing are parameters.
-/

namespace Setheum.SetBft.Alerts

open Result Transition

variable {H D S : Type}

/-- What the handler needs: the node's keychain and signer, the session, and
the hashes of units and of alerts. -/
structure Config (H D S : Type) where
  keychain : Keychain H S
  sign : H → S
  sessionId : Nat
  hasher : Hasher H D
  alertHash : Alert H D S → H

inductive Error where
  | incorrectlySignedUnit (sender : Nat)
  | sameRound (round sender : Nat)
  | wrongCreator (sender : Nat)
  | differentRounds (sender : Nat)
  | singleUnit (sender : Nat)
  | wrongSession (sender : Nat)
  | incorrectlySignedAlert
  | repeatedAlert (sender forker : Nat)
  | unknownAlertRequest
  | unknownAlertRMC
  deriving DecidableEq

inductive ForkingNotification (H D S : Type) where
  | forker (proof : ForkProof H D S)
  | units (units : List (UncheckedSignedUnit H D S))

abbrev SignedAlert (H D S : Type) := UncheckedSigned (Alert H D S) S

structure Indexed (T : Type) where
  signable : T
  index : Nat

/-- `set_bft_rmc::Message`. -/
inductive RmcMessage (H S M : Type) where
  | signedHash (u : UncheckedSigned (Indexed H) S)
  | multisignedHash (u : UncheckedSigned H M)

namespace RmcMessage

variable {M : Type}

def hash : RmcMessage H S M → H
  | .signedHash u => u.signable.signable
  | .multisignedHash u => u.signable

def isComplete : RmcMessage H S M → Bool
  | .signedHash _ => false
  | .multisignedHash _ => true

end RmcMessage

inductive RmcResponse (H S M : Type) where
  | rmcMessage (message : RmcMessage H S M)
  /-- A request for the alert to send to the node. -/
  | alertRequest (hash : H) (recipient : Nat)
  | noop

structure Handler (H D S : Type) where
  knownForkers : Nat → Option (ForkProof H D S)
  knownAlerts : H → Option (SignedAlert H D S)
  knownRmcs : Nat × Nat → Option H

variable [DecidableEq H] [DecidableEq D] (T : Config H D S)

def Handler.new : Handler H D S := ⟨fun _ => none, fun _ => none, fun _ => none⟩

/-- `UncheckedSigned::check` of a unit succeeds. -/
def unitSigned (u : UncheckedSignedUnit H D S) : Bool :=
  T.keychain.verify (T.hasher.unitHash u.signable) u.signature u.signable.creator

/-- `UncheckedSigned::check` of an alert succeeds: signed by its sender. -/
def alertSigned (a : SignedAlert H D S) : Bool :=
  T.keychain.verify (T.alertHash a.signable) a.signature a.signable.sender

/-- The loop of `verify_commitment` over the committed units, with the rounds
seen so far. -/
def verifyCommitmentFrom (alert : Alert H D S) : List Nat → List (UncheckedSignedUnit H D S) → Except Error Unit
  | _, [] => pure ()
  | rounds, u :: us => do
    ensure (unitSigned T u) (.incorrectlySignedUnit alert.sender)
    ensure (u.signable.creator == alert.forker) (.wrongCreator alert.sender)
    ensure (!rounds.contains u.signable.round) (.sameRound u.signable.round alert.sender)
    verifyCommitmentFrom alert (u.signable.round :: rounds) us

/-- `verify_commitment`: the committed units are signed units of the forker,
of pairwise different rounds. -/
def verifyCommitment (alert : Alert H D S) : Except Error Unit :=
  verifyCommitmentFrom T alert [] alert.legitUnits

/-- `verify_fork`. -/
def verifyFork (alert : Alert H D S) : Except Error Unit := do
  let u1 := alert.proof.1
  let u2 := alert.proof.2
  ensure (unitSigned T u1 && unitSigned T u2) (.incorrectlySignedUnit alert.sender)
  ensure (u1.signable.sessionId == T.sessionId && u2.signable.sessionId == T.sessionId) (.wrongSession alert.sender)
  ensure (u1.signable != u2.signable) (.singleUnit alert.sender)
  ensure (u1.signable.creator == u2.signable.creator) (.wrongCreator alert.sender)
  ensure (u1.signable.round == u2.signable.round) (.differentRounds alert.sender)

namespace Handler

def isForker (h : Handler H D S) (forker : Nat) : Bool := (h.knownForkers forker).isSome

/-- `rmc_alert`: registers the alert's hash for its pair and keeps the alert. -/
def rmcAlert (h : Handler H D S) (forker : Nat) (alert : SignedAlert H D S) : H × Handler H D S :=
  let hash := T.alertHash alert.signable
  (hash,
    { h with
      knownRmcs := Function.update h.knownRmcs (alert.signable.sender, forker) (some hash)
      knownAlerts := Function.update h.knownAlerts hash (some alert) })

/-- `on_own_alert`: the signed alert, to send to everyone, and the hash to
start the RMC on. -/
def onOwnAlert (h : Handler H D S) (alert : Alert H D S) : (SignedAlert H D S × H) × Handler H D S :=
  let forker := alert.forker
  let h := { h with knownForkers := Function.update h.knownForkers forker (some alert.proof) }
  let signed : SignedAlert H D S := ⟨alert, T.sign (T.alertHash alert)⟩
  let r := h.rmcAlert T forker signed
  ((signed, r.1), r.2)

/-- `on_network_alert`. -/
def onNetworkAlert (h : Handler H D S) (alert : SignedAlert H D S) :
    Except Error (Option (ForkingNotification H D S) × H) × Handler H D S :=
  if !alertSigned T alert then (.error .incorrectlySignedAlert, h)
  else
    match verifyFork T alert.signable with
    | .error e => (.error e, h)
    | .ok () =>
      let contents := alert.signable
      let forker := contents.forker
      if (h.knownRmcs (contents.sender, forker)).isSome then
        (.error (.repeatedAlert contents.sender forker),
          { h with knownAlerts := Function.update h.knownAlerts (T.alertHash contents) (some alert) })
      else
        let r : Option (ForkingNotification H D S) × Handler H D S :=
          if h.isForker forker then (none, h)
          else (some (.forker contents.proof),
            { h with knownForkers := Function.update h.knownForkers forker (some contents.proof) })
        let registered := r.2.rmcAlert T forker alert
        (.ok (r.1, registered.1), registered.2)

/-- `on_rmc_message`. -/
def onRmcMessage {M : Type} (h : Handler H D S) (sender : Nat) (message : RmcMessage H S M) : RmcResponse H S M :=
  let hash := message.hash
  match h.knownAlerts hash with
  | some alert =>
    let alertId := (alert.signable.sender, alert.signable.forker)
    if h.knownRmcs alertId = some hash || message.isComplete then .rmcMessage message else .noop
  | none => .alertRequest hash sender

/-- `on_alert_request`: a copy of the alert, to send to `node`. -/
def onAlertRequest (h : Handler H D S) (node : Nat) (hash : H) : Except Error (SignedAlert H D S × Nat) :=
  match h.knownAlerts hash with
  | some alert => .ok (alert, node)
  | none => .error .unknownAlertRequest

/-- `alert_confirmed`, for the hash of a complete multisignature. -/
def alertConfirmed (h : Handler H D S) (hash : H) : Except Error (ForkingNotification H D S) × Handler H D S :=
  match h.knownAlerts hash with
  | none => (.error .unknownAlertRMC, h)
  | some alert =>
    let forker := alert.signable.proof.1.signable.creator
    let h := { h with
      knownRmcs := Function.update h.knownRmcs (alert.signable.sender, forker) (some (T.alertHash alert.signable)) }
    match verifyCommitment T alert.signable with
    | .error e => (.error e, h)
    | .ok () => (.ok (.units alert.signable.legitUnits), h)

end Handler

/-- The handler with what it has handed out: each hash to start an RMC on,
with the (sender, forker) pair it was registered for, and each forker it
notified the consensus of. -/
structure State (H D S : Type) where
  handler : Handler H D S
  rmcs : List ((Nat × Nat) × H)
  notifiedForkers : List Nat

/-- The handler's entry points that change it. `on_rmc_message` and
`on_alert_request` only read it. -/
inductive Call (H D S : Type) where
  | onOwnAlert (alert : Alert H D S)
  | onNetworkAlert (alert : SignedAlert H D S)
  | alertConfirmed (hash : H)

def ForkingNotification.forker? : Option (ForkingNotification H D S) → List Nat
  | some (.forker proof) => [proof.1.signable.creator]
  | _ => []

def step (s : State H D S) : Call H D S → Option (State H D S)
  | .onOwnAlert alert =>
    let r := s.handler.onOwnAlert T alert
    some ⟨r.2, s.rmcs ++ [((alert.sender, alert.forker), r.1.2)], s.notifiedForkers⟩
  | .onNetworkAlert alert =>
    let r := s.handler.onNetworkAlert T alert
    match r.1 with
    | .ok (notification, hash) =>
      some ⟨r.2, s.rmcs ++ [((alert.signable.sender, alert.signable.forker), hash)],
        s.notifiedForkers ++ ForkingNotification.forker? notification⟩
    | .error _ => some { s with handler := r.2 }
  | .alertConfirmed hash => some { s with handler := (s.handler.alertConfirmed T hash).2 }

def system : System (State H D S) (Call H D S) where
  init s := s.handler = .new ∧ s.rmcs = [] ∧ s.notifiedForkers = []
  step := step T

end Setheum.SetBft.Alerts
