import Setheum.SetBft.Alerts
import Setheum.SetBft.ForkDetection

/-!
# Runs of the fork-alert handler

The three maps of `alerts::Handler` are written by different entry points in
different orders, but over every run they agree: an alert is kept under its
own hash and is either the node's own or one whose signature and fork proof
`on_network_alert` checked, and every hash registered for an RMC, or handed
out to start one, names a kept alert, so `on_alert_request` can serve it. A
forker is reported to the consensus only when it is not yet known, and so at
most once.
-/

namespace Setheum.SetBft.Alerts

open Result Transition

variable {H D S : Type} [DecidableEq H] [DecidableEq D] {T : Config H D S}

/-- An alert the handler keeps: one of its own, signed with its key, or one
from the network whose signature and fork proof it checked. -/
def Admitted (T : Config H D S) (a : SignedAlert H D S) : Prop :=
  a.signature = T.sign (T.alertHash a.signable) ∨ (alertSigned T a = true ∧ verifyFork T a.signable = .ok ())

omit [DecidableEq D] in
theorem isSome_update_some {α : Type} {f : H → Option α} {x k : H} {v : α} (hx : (f x).isSome) :
    (Function.update f k (some v) x).isSome := by
  by_cases heq : x = k
  · rw [heq, Function.update_self]
    rfl
  · rw [Function.update_of_ne heq]
    exact hx

namespace Handler

variable {h : Handler H D S}

section Writes

variable (T) (h) (forker : Nat) (a : SignedAlert H D S)

omit [DecidableEq D] in
@[simp] theorem rmcAlert_fst : (h.rmcAlert T forker a).1 = T.alertHash a.signable := rfl
omit [DecidableEq D] in
@[simp] theorem rmcAlert_knownForkers : (h.rmcAlert T forker a).2.knownForkers = h.knownForkers := rfl
omit [DecidableEq D] in
@[simp] theorem rmcAlert_knownAlerts :
    (h.rmcAlert T forker a).2.knownAlerts = Function.update h.knownAlerts (T.alertHash a.signable) (some a) := rfl
omit [DecidableEq D] in
@[simp] theorem rmcAlert_knownRmcs :
    (h.rmcAlert T forker a).2.knownRmcs =
      Function.update h.knownRmcs (a.signable.sender, forker) (some (T.alertHash a.signable)) := rfl

omit [DecidableEq D] in
theorem onOwnAlert_eq (alert : Alert H D S) :
    h.onOwnAlert T alert =
      ((⟨alert, T.sign (T.alertHash alert)⟩, T.alertHash alert),
        (({ h with knownForkers := Function.update h.knownForkers alert.forker (some alert.proof) } :
          Handler H D S).rmcAlert T alert.forker ⟨alert, T.sign (T.alertHash alert)⟩).2) := rfl

end Writes

/-- What `on_network_alert` did: nothing, when the signature or the fork
proof fails; keep a repeated alert; or register the alert's RMC, the forker
recorded and reported when it is new. -/
theorem onNetworkAlert_cases (alert : SignedAlert H D S) :
    (∃ e, h.onNetworkAlert T alert = (.error e, h)) ∨
    (Admitted T alert ∧ ∃ e, h.onNetworkAlert T alert =
      (.error e, { h with knownAlerts := Function.update h.knownAlerts (T.alertHash alert.signable) (some alert) })) ∨
    (Admitted T alert ∧ h.isForker alert.signable.forker = true ∧
      h.onNetworkAlert T alert =
        (.ok (none, T.alertHash alert.signable), (h.rmcAlert T alert.signable.forker alert).2)) ∨
    (Admitted T alert ∧ h.isForker alert.signable.forker = false ∧
      h.onNetworkAlert T alert =
        (.ok (some (.forker alert.signable.proof), T.alertHash alert.signable),
          (({ h with knownForkers := Function.update h.knownForkers alert.signable.forker (some alert.signable.proof) } :
            Handler H D S).rmcAlert T alert.signable.forker alert).2)) := by
  unfold onNetworkAlert
  by_cases hs : alertSigned T alert = true
  · rw [hs, Bool.not_true, if_neg Bool.false_ne_true]
    cases hv : verifyFork T alert.signable with
    | error e => exact .inl ⟨e, rfl⟩
    | ok u =>
        have hadm : Admitted T alert := .inr ⟨hs, hv⟩
        dsimp only
        by_cases hr : (h.knownRmcs (alert.signable.sender, alert.signable.forker)).isSome
        · exact .inr (.inl ⟨hadm, _, by rw [if_pos hr]⟩)
        · rw [if_neg hr]
          by_cases hf : h.isForker alert.signable.forker = true
          · exact .inr (.inr (.inl ⟨hadm, hf, by rw [if_pos hf]; rfl⟩))
          · exact .inr (.inr (.inr ⟨hadm, Bool.eq_false_iff.2 hf, by rw [if_neg hf]; rfl⟩))
  · rw [Bool.not_eq_true] at hs
    exact .inl ⟨_, by rw [hs, Bool.not_false, if_pos rfl]⟩

omit [DecidableEq H] [DecidableEq D] in
theorem alertConfirmed_snd (hash : H) {a : SignedAlert H D S} (ha : h.knownAlerts hash = some a) :
    (h.alertConfirmed T hash).2 =
      { h with knownRmcs := Function.update h.knownRmcs (a.signable.sender, a.signable.forker) (some (T.alertHash a.signable)) } := by
  unfold alertConfirmed
  rw [ha]
  dsimp only
  split <;> rfl

omit [DecidableEq H] [DecidableEq D] in
theorem alertConfirmed_of_none (hash : H) (ha : h.knownAlerts hash = none) :
    h.alertConfirmed T hash = (.error .unknownAlertRMC, h) := by
  unfold alertConfirmed
  rw [ha]

/-! ## What the handler only adds to -/

/-- The alerts the handler keeps and the forkers it knows are never dropped. -/
structure Grows (h h' : Handler H D S) : Prop where
  alerts : ∀ hash, (h.knownAlerts hash).isSome → (h'.knownAlerts hash).isSome
  forkers : ∀ f, h.isForker f = true → h'.isForker f = true

omit [DecidableEq H] [DecidableEq D] in
theorem Grows.refl (h : Handler H D S) : Grows h h := ⟨fun _ hx => hx, fun _ hf => hf⟩

omit [DecidableEq H] [DecidableEq D] in
theorem Grows.trans {h₁ h₂ h₃ : Handler H D S} (h₁₂ : Grows h₁ h₂) (h₂₃ : Grows h₂ h₃) : Grows h₁ h₃ :=
  ⟨fun x hx => h₂₃.alerts x (h₁₂.alerts x hx), fun f hf => h₂₃.forkers f (h₁₂.forkers f hf)⟩

omit [DecidableEq H] [DecidableEq D] in
theorem grows_recordForker (f : Nat) (proof : ForkProof H D S) :
    Grows h { h with knownForkers := Function.update h.knownForkers f (some proof) } :=
  ⟨fun _ hx => hx, fun g hg => by
    unfold isForker at hg ⊢
    exact isSome_update_some (H := Nat) hg⟩

omit [DecidableEq D] in
theorem grows_keepAlert (hash : H) (a : SignedAlert H D S) :
    Grows h { h with knownAlerts := Function.update h.knownAlerts hash (some a) } :=
  ⟨fun _ hx => isSome_update_some hx, fun _ hf => hf⟩

omit [DecidableEq D] in
theorem grows_rmcAlert (forker : Nat) (a : SignedAlert H D S) : Grows h (h.rmcAlert T forker a).2 :=
  ⟨fun _ hx => by rw [rmcAlert_knownAlerts]; exact isSome_update_some hx, fun _ hf => hf⟩

omit [DecidableEq D] in
theorem grows_onOwnAlert (alert : Alert H D S) : Grows h (h.onOwnAlert T alert).2 := by
  rw [onOwnAlert_eq]
  exact (grows_recordForker _ _).trans (grows_rmcAlert _ _)

theorem grows_onNetworkAlert (alert : SignedAlert H D S) : Grows h (h.onNetworkAlert T alert).2 := by
  rcases onNetworkAlert_cases (h := h) (T := T) alert with
    ⟨_, he⟩ | ⟨-, _, he⟩ | ⟨-, -, he⟩ | ⟨-, -, he⟩ <;> rw [he]
  · exact Grows.refl h
  · exact grows_keepAlert _ _
  · exact grows_rmcAlert _ _
  · exact (grows_recordForker _ _).trans (grows_rmcAlert _ _)

omit [DecidableEq H] [DecidableEq D] in
theorem grows_alertConfirmed (hash : H) : Grows h (h.alertConfirmed T hash).2 := by
  cases ha : h.knownAlerts hash with
  | none => rw [alertConfirmed_of_none hash ha]; exact Grows.refl h
  | some a => rw [alertConfirmed_snd hash ha]; exact ⟨fun _ hx => hx, fun _ hf => hf⟩

/-! ## The maps agree -/

/-- The handler's maps agree: every alert is kept under its own hash and was
admitted, and every registered RMC names a kept alert. -/
structure Consistent (T : Config H D S) (h : Handler H D S) : Prop where
  alerts : ∀ hash a, h.knownAlerts hash = some a → T.alertHash a.signable = hash ∧ Admitted T a
  rmcs : ∀ p hash, h.knownRmcs p = some hash → (h.knownAlerts hash).isSome

theorem Consistent.new : (Handler.new : Handler H D S).Consistent T :=
  ⟨fun _ _ ha => (nomatch ha), fun _ _ hp => (nomatch hp)⟩

theorem Consistent.keepAlert (hc : h.Consistent T) {a : SignedAlert H D S} (ha : Admitted T a) :
    ({ h with knownAlerts := Function.update h.knownAlerts (T.alertHash a.signable) (some a) } :
      Handler H D S).Consistent T := by
  refine ⟨fun hash b hb => ?_, fun p hash hp => isSome_update_some (hc.rmcs p hash hp)⟩
  dsimp only at hb
  by_cases heq : hash = T.alertHash a.signable
  · subst heq
    rw [Function.update_self, Option.some_inj] at hb
    subst hb
    exact ⟨rfl, ha⟩
  · rw [Function.update_of_ne heq] at hb
    exact hc.alerts hash b hb

theorem Consistent.rmcAlert (hc : h.Consistent T) {forker : Nat} {a : SignedAlert H D S} (ha : Admitted T a) :
    (h.rmcAlert T forker a).2.Consistent T := by
  have hk := hc.keepAlert ha
  refine ⟨hk.alerts, fun p hash hp => ?_⟩
  rw [rmcAlert_knownRmcs] at hp
  by_cases hpeq : p = (a.signable.sender, forker)
  · -- the pair just registered names the alert just kept
    rw [hpeq, Function.update_self, Option.some_inj] at hp
    rw [rmcAlert_knownAlerts, ← hp, Function.update_self]
    rfl
  · rw [Function.update_of_ne hpeq] at hp
    exact hk.rmcs p hash hp

theorem Consistent.recordForker (hc : h.Consistent T) (f : Nat) (proof : ForkProof H D S) :
    ({ h with knownForkers := Function.update h.knownForkers f (some proof) } : Handler H D S).Consistent T :=
  ⟨hc.alerts, hc.rmcs⟩

theorem Consistent.onOwnAlert (hc : h.Consistent T) (alert : Alert H D S) : (h.onOwnAlert T alert).2.Consistent T := by
  rw [onOwnAlert_eq]
  exact (hc.recordForker _ _).rmcAlert (.inl rfl)

theorem Consistent.onNetworkAlert (hc : h.Consistent T) (alert : SignedAlert H D S) :
    (h.onNetworkAlert T alert).2.Consistent T := by
  rcases onNetworkAlert_cases (h := h) (T := T) alert with
    ⟨_, he⟩ | ⟨hadm, _, he⟩ | ⟨hadm, -, he⟩ | ⟨hadm, -, he⟩ <;> rw [he]
  · exact hc
  · exact hc.keepAlert hadm
  · exact hc.rmcAlert hadm
  · exact (hc.recordForker _ _).rmcAlert hadm

theorem Consistent.alertConfirmed (hc : h.Consistent T) (hash : H) : (h.alertConfirmed T hash).2.Consistent T := by
  cases ha : h.knownAlerts hash with
  | none => rw [alertConfirmed_of_none hash ha]; exact hc
  | some a =>
      rw [alertConfirmed_snd hash ha]
      refine ⟨hc.alerts, fun p hash' hp => ?_⟩
      dsimp only at hp ⊢
      by_cases hpeq : p = (a.signable.sender, a.signable.forker)
      · -- the confirmed alert is kept under the hash it is registered with
        rw [hpeq, Function.update_self, Option.some_inj, (hc.alerts hash a ha).1] at hp
        rw [← hp, ha]
        rfl
      · rw [Function.update_of_ne hpeq] at hp
        exact hc.rmcs p hash' hp

end Handler

/-! ## Runs -/

/-- What every run of the handler keeps: its maps agree, every hash handed
out for an RMC names a kept alert, and the forkers reported to the consensus
are known and pairwise distinct. -/
structure State.Consistent (T : Config H D S) (s : State H D S) : Prop where
  handler : s.handler.Consistent T
  rmcs : ∀ p hash, (p, hash) ∈ s.rmcs → (s.handler.knownAlerts hash).isSome
  notified_nodup : s.notifiedForkers.Nodup
  notified_known : ∀ f ∈ s.notifiedForkers, s.handler.isForker f = true

variable {s s' : State H D S}

theorem State.Consistent.init (hs : (system T).init s) : s.Consistent T := by
  obtain ⟨hh, hr, hn⟩ := hs
  refine ⟨hh ▸ Handler.Consistent.new, fun _ _ hp => ?_, hn ▸ List.nodup_nil, fun _ hf => ?_⟩
  · rw [hr] at hp
    cases hp
  · rw [hn] at hf
    cases hf

theorem State.Consistent.of_grows (hc : s.Consistent T) {h' : Handler H D S} (hg : s.handler.Grows h')
    (hh : h'.Consistent T) : (⟨h', s.rmcs, s.notifiedForkers⟩ : State H D S).Consistent T :=
  ⟨hh, fun p hash hp => hg.alerts hash (hc.rmcs p hash hp), hc.notified_nodup,
    fun f hf => hg.forkers f (hc.notified_known f hf)⟩

theorem State.Consistent.handOut (hc : s.Consistent T) {p : Nat × Nat} {hash : H}
    (hk : (s.handler.knownAlerts hash).isSome) :
    (⟨s.handler, s.rmcs ++ [(p, hash)], s.notifiedForkers⟩ : State H D S).Consistent T := by
  refine ⟨hc.handler, fun q hash' hq => ?_, hc.notified_nodup, hc.notified_known⟩
  rcases List.mem_append.1 hq with hq | hq
  · exact hc.rmcs q hash' hq
  · rw [List.mem_singleton, Prod.mk.injEq] at hq
    rw [hq.2]
    exact hk

theorem State.Consistent.step (hc : s.Consistent T) {call : Call H D S} (hs : step T s call = some s') :
    s'.Consistent T := by
  cases call with
  | onOwnAlert alert =>
      rw [Alerts.step, Option.some_inj] at hs
      subst hs
      have hg := hc.of_grows (Handler.grows_onOwnAlert (h := s.handler) (T := T) alert)
        (hc.handler.onOwnAlert alert)
      refine hg.handOut ?_
      rw [Handler.onOwnAlert_eq, Handler.rmcAlert_knownAlerts, Function.update_self]
      rfl
  | onNetworkAlert alert =>
      have hg := hc.of_grows (Handler.grows_onNetworkAlert (h := s.handler) (T := T) alert)
        (hc.handler.onNetworkAlert alert)
      have hkept : ∀ h : Handler H D S,
          ((h.rmcAlert T alert.signable.forker alert).2.knownAlerts (T.alertHash alert.signable)).isSome :=
        fun h => by rw [Handler.rmcAlert_knownAlerts, Function.update_self]; rfl
      rcases Handler.onNetworkAlert_cases (h := s.handler) (T := T) alert with
        ⟨e, he⟩ | ⟨-, e, he⟩ | ⟨-, hf, he⟩ | ⟨-, hf, he⟩ <;>
        simp only [Alerts.step, he, Option.some_inj] at hs <;> subst hs <;> rw [he] at hg <;> dsimp only at hg
      · exact hg
      · exact hg
      · simpa only [ForkingNotification.forker?, List.append_nil] using hg.handOut (hkept _)
      · -- a new forker: reported once, and known from now on
        have hk : State.Consistent T ⟨_, s.rmcs ++ [((alert.signable.sender, alert.signable.forker),
            T.alertHash alert.signable)], s.notifiedForkers⟩ := hg.handOut (hkept _)
        have hnew : alert.signable.forker ∉ s.notifiedForkers := fun hmem => by
          have hknown := hc.notified_known _ hmem
          rw [hf] at hknown
          exact Bool.false_ne_true hknown
        have hforker : alert.signable.proof.1.signable.creator = alert.signable.forker := rfl
        simp only [ForkingNotification.forker?, hforker]
        refine ⟨hk.handler, hk.rmcs, ?_, fun f hf' => ?_⟩
        · refine List.nodup_append.2 ⟨hc.notified_nodup, List.nodup_singleton _, fun f hf g hg heq => ?_⟩
          rw [List.mem_singleton] at hg
          apply hnew
          rw [← hg, ← heq]
          exact hf
        · rcases List.mem_append.1 hf' with hf' | hf'
          · exact hk.notified_known f hf'
          · rw [List.mem_singleton] at hf'
            rw [hf']
            show (Function.update s.handler.knownForkers alert.signable.forker _ _).isSome = true
            rw [Function.update_self]
            rfl
  | alertConfirmed hash =>
      rw [Alerts.step, Option.some_inj] at hs
      subst hs
      exact hc.of_grows (Handler.grows_alertConfirmed hash) (hc.handler.alertConfirmed hash)

theorem step_reports_unknown_forker {call : Call H D S} (hs : step T s call = some s') {f : Nat}
    (hf : f ∈ s'.notifiedForkers) (hold : f ∉ s.notifiedForkers) : s.handler.isForker f = false := by
  cases call with
  | onOwnAlert alert =>
      rw [Alerts.step, Option.some_inj] at hs
      subst hs
      exact absurd hf hold
  | onNetworkAlert alert =>
      rcases Handler.onNetworkAlert_cases (h := s.handler) (T := T) alert with
        ⟨e, he⟩ | ⟨-, e, he⟩ | ⟨-, -, he⟩ | ⟨-, hnew, he⟩ <;>
        simp only [Alerts.step, he, Option.some_inj] at hs <;> subst hs
      · exact absurd hf hold
      · exact absurd hf hold
      · simp only [ForkingNotification.forker?, List.append_nil] at hf
        exact absurd hf hold
      · -- only the report of the alert's forker is new, and it was not recorded
        simp only [ForkingNotification.forker?, List.mem_append, List.mem_singleton] at hf
        rcases hf with hf | rfl
        · exact absurd hf hold
        · exact hnew
  | alertConfirmed hash =>
      rw [Alerts.step, Option.some_inj] at hs
      subst hs
      exact absurd hf hold

variable (T) in
theorem consistent_reachable : Invariant (system T) (State.Consistent T) :=
  invariant_of_inductive _ (fun _ hs => State.Consistent.init hs) fun _ _ _ hc hs => hc.step hs

/-! ## A reference run -/

/-- The keychain of the fork-detection reference, whose signatures are a hash
plus the signer's index, with the node's own index 0; an alert's hash is made
of its sender and forker. -/
def referenceConfig : Config Nat Nat Nat :=
  ⟨Dag.referenceKeychain, fun h => h, 0, Dag.referenceHasher, fun a => 100 * a.sender + a.forker⟩

/-- Node 0 alerts about node 1's fork in round 0; node 2's alert about the
same fork arrives, and then node 2's alert about node 3's fork. -/
def alerted : State Nat Nat Nat :=
  (system referenceConfig).run ⟨.new, [], []⟩
    [.onOwnAlert ⟨0, (Dag.initialUnit 1 1, Dag.initialUnit 1 2), []⟩,
      .onNetworkAlert ⟨⟨2, (Dag.initialUnit 1 1, Dag.initialUnit 1 2), []⟩, 203⟩,
      .onNetworkAlert ⟨⟨2, (Dag.initialUnit 3 1, Dag.initialUnit 3 2), []⟩, 205⟩]

theorem alerted_reachable : Reachable (system referenceConfig) alerted :=
  (Reachable.init (show (system referenceConfig).init ⟨.new, [], []⟩ from ⟨rfl, rfl, rfl⟩)).run _

/-! ## Forker reports and kept alerts -/

/-- Over every run of the alert handler, the forkers reported to the consensus
are pairwise distinct and recorded, and a step reports only a forker that was
not recorded before it. -/
theorem forker_reported_at_most_once (hs : Reachable (system T) s) :
    s.notifiedForkers.Nodup ∧ (∀ f ∈ s.notifiedForkers, s.handler.isForker f = true) ∧
      ∀ (call : Call H D S) (s' : State H D S), step T s call = some s' →
        ∀ f ∈ s'.notifiedForkers, f ∉ s.notifiedForkers → s.handler.isForker f = false := by
  have hc := consistent_reachable T s hs
  exact ⟨hc.notified_nodup, hc.notified_known, fun _ _ hstep _ hf hold => step_reports_unknown_forker hstep hf hold⟩

/-- Node 1, known from node 0's own alert, is not reported again; node 3 is. -/
theorem alerted_forkers_reported_once :
    alerted.notifiedForkers.Nodup ∧ (∀ f ∈ alerted.notifiedForkers, alerted.handler.isForker f = true) ∧
      ∀ (call : Call Nat Nat Nat) (s' : State Nat Nat Nat), step referenceConfig alerted call = some s' →
        ∀ f ∈ s'.notifiedForkers, f ∉ alerted.notifiedForkers → alerted.handler.isForker f = false :=
  forker_reported_at_most_once alerted_reachable

example : alerted.notifiedForkers = [3] := by decide

/-- Over every run of the alert handler, every alert it keeps is kept under its
own hash and is its own or passed the signature and fork checks, every hash
registered for a (sender, forker) pair names a kept alert, and every hash
handed out to start an RMC is one that `on_alert_request` answers with an
admitted alert. -/
theorem kept_alerts_admitted (hs : Reachable (system T) s) :
    (∀ hash a, s.handler.knownAlerts hash = some a → T.alertHash a.signable = hash ∧ Admitted T a) ∧
      (∀ p hash, s.handler.knownRmcs p = some hash → (s.handler.knownAlerts hash).isSome) ∧
      ∀ p hash node, (p, hash) ∈ s.rmcs →
        ∃ a, s.handler.onAlertRequest node hash = .ok (a, node) ∧ Admitted T a := by
  have hc := consistent_reachable T s hs
  refine ⟨hc.handler.alerts, hc.handler.rmcs, fun p hash node hp => ?_⟩
  obtain ⟨a, ha⟩ := Option.isSome_iff_exists.1 (hc.rmcs p hash hp)
  refine ⟨a, ?_, (hc.handler.alerts hash a ha).2⟩
  unfold Handler.onAlertRequest
  rw [ha]

/-- The three alerts of the reference run are kept and served. -/
theorem alerted_alerts_admitted :
    (∀ hash a, alerted.handler.knownAlerts hash = some a →
        referenceConfig.alertHash a.signable = hash ∧ Admitted referenceConfig a) ∧
      (∀ p hash, alerted.handler.knownRmcs p = some hash → (alerted.handler.knownAlerts hash).isSome) ∧
      ∀ p hash node, (p, hash) ∈ alerted.rmcs →
        ∃ a, alerted.handler.onAlertRequest node hash = .ok (a, node) ∧ Admitted referenceConfig a :=
  kept_alerts_admitted alerted_reachable

example : alerted.rmcs.map Prod.snd = [1, 201, 203] := by decide

end Setheum.SetBft.Alerts
