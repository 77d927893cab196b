import Setheum.Lib.System
import Setheum.Primitives.Arithmetic

/-!
# The rate-limit pallet

`module_rate_limit`: governance sets a `RateLimitRule` per limiter and encoded
key, which resets the key's `RateLimitQuota` to the default `(0, 0)` of its
`ValueQuery`; `can_consume` refills the quota as the rule says and compares,
and `consume` takes the value from it. Callers go through `try_consume`, the
`RateLimiter` trait's `can_consume` followed by `consume`.

The quota refills lazily: `PerPeriod` restarts its period at the first access
a whole period after the last restart, and `TokenBucket` adds a multiple of
its increment for the whole periods since the last refill, up to its maximum,
and restarts its period at that access.
-/

namespace Setheum.RateLimit

inductive Period where
  | blocks (count : Nat)
  | seconds (count : Nat)
  deriving DecidableEq, Repr

inductive RateLimitRule where
  | perPeriod (period : Period) (quota : Nat)
  | tokenBucket (period : Period) (quotaIncrement maxQuota : Nat)
  | unlimited
  | notAllowed
  deriving DecidableEq, Repr

inductive Error where
  | invalidRateLimitRule
  deriving DecidableEq, Repr

inductive DispatchError where
  | badOrigin
  | module (e : Error)
  deriving DecidableEq, Repr

inductive RateLimiterError where
  | exceedLimit
  deriving DecidableEq, Repr

/-- The current block number and `UnixTime::now().as_secs()` of a call. -/
structure Clock where
  blockNumber : Nat
  unixTime : Nat
  deriving DecidableEq, Repr

/-- The time of a call in the period's unit, and the period's length. -/
def Period.nowAndCount (clock : Clock) : Period → Nat × Nat
  | blocks blocksCount => (clock.blockNumber, blocksCount)
  | seconds secsCount => (clock.unixTime, secsCount)

/-- The period check of `update_rate_limit_rule`: no zero count. -/
def Period.valid : Period → Bool
  | blocks blocksCount => blocksCount ≠ 0
  | seconds secsCount => secsCount ≠ 0

/-- The checks of `update_rate_limit_rule`: no zero period, quota or increment. -/
def RateLimitRule.valid : RateLimitRule → Bool
  | perPeriod period quota => period.valid && quota ≠ 0
  | tokenBucket period quotaIncrement maxQuota => period.valid && (quotaIncrement ≠ 0 && maxQuota ≠ 0)
  | unlimited | notAllowed => true

/-- The pallet's `Config`: whether an origin passes `GovernanceOrigin`. -/
structure Config (O : Type) where
  governanceOrigin : O → Bool

/-- `RateLimitRules` and `RateLimitQuota`, the latter as `(last_updated, remainer_quota)`. -/
structure State (LimiterId Key : Type) where
  rateLimitRules : LimiterId → Key → Option RateLimitRule
  rateLimitQuota : LimiterId → Key → Nat × Nat

variable {LimiterId Key O : Type} [DecidableEq LimiterId] [DecidableEq Key]

namespace State

/-- The storage before any rule is set. -/
def empty : State LimiterId Key := ⟨fun _ _ => none, fun _ _ => (0, 0)⟩

def setRule (s : State LimiterId Key) (limiterId : LimiterId) (key : Key) (rule : Option RateLimitRule) :
    State LimiterId Key :=
  { s with rateLimitRules := fun l k => if l = limiterId ∧ k = key then rule else s.rateLimitRules l k }

def setQuota (s : State LimiterId Key) (limiterId : LimiterId) (key : Key) (quota : Nat × Nat) :
    State LimiterId Key :=
  { s with rateLimitQuota := fun l k => if l = limiterId ∧ k = key then quota else s.rateLimitQuota l k }

variable (s : State LimiterId Key) (limiterId : LimiterId) (key : Key)

@[simp] theorem setRule_rateLimitRules (rule l k) :
    (s.setRule limiterId key rule).rateLimitRules l k =
      if l = limiterId ∧ k = key then rule else s.rateLimitRules l k := rfl
@[simp] theorem setRule_rateLimitQuota (rule) :
    (s.setRule limiterId key rule).rateLimitQuota = s.rateLimitQuota := rfl
@[simp] theorem setQuota_rateLimitRules (quota) :
    (s.setQuota limiterId key quota).rateLimitRules = s.rateLimitRules := rfl
@[simp] theorem setQuota_rateLimitQuota (quota l k) :
    (s.setQuota limiterId key quota).rateLimitQuota l k =
      if l = limiterId ∧ k = key then quota else s.rateLimitQuota l k := rfl

end State

/-- `update_rate_limit_rule`. -/
def updateRateLimitRule (T : Config O) (s : State LimiterId Key) (origin : O) (rateLimiterId : LimiterId)
    (encodedKey : Key) (update : Option RateLimitRule) : Except DispatchError (State LimiterId Key) :=
  if ¬T.governanceOrigin origin then .error .badOrigin
  else if (update.map RateLimitRule.valid).getD true then
    -- always reset `RateLimitQuota`
    .ok ((s.setRule rateLimiterId encodedKey update).setQuota rateLimiterId encodedKey (0, 0))
  else .error (.module .invalidRateLimitRule)

/-- `access_remainer_quota_after_update`, on the key's `(last_updated, remainer_quota)`. -/
def accessRemainerQuotaAfterUpdate (rateLimitRule : RateLimitRule) (clock : Clock) :
    Nat × Nat → Nat × Nat
  | (lastUpdated, remainerQuota) =>
      match rateLimitRule with
      | .perPeriod period quota =>
          let (now, count) := period.nowAndCount clock
          let interval := now - lastUpdated
          if interval ≥ count then (now, quota) else (lastUpdated, remainerQuota)
      | .tokenBucket period quotaIncrement maxQuota =>
          let (now, count) := period.nowAndCount clock
          let interval := now - lastUpdated
          if count ≠ 0 ∧ interval ≥ count then
            let incTimes := interval / count
            (now, min (Balance.saturatingAdd (Balance.saturatingMul quotaIncrement incTimes) remainerQuota)
              maxQuota)
          else (lastUpdated, remainerQuota)
      | .unlimited | .notAllowed => (lastUpdated, remainerQuota)

/-- The rules that keep a quota. -/
def RateLimitRule.limited : RateLimitRule → Bool
  | perPeriod _ _ | tokenBucket _ _ _ => true
  | unlimited | notAllowed => false

/-- `can_consume`; the refill it writes is kept whatever it answers. -/
def canConsume (s : State LimiterId Key) (limiterId : LimiterId) (key : Key) (clock : Clock) (value : Nat) :
    Except RateLimiterError Unit × State LimiterId Key :=
  match s.rateLimitRules limiterId key with
  | some rule =>
      if rule.limited then
        let quota := accessRemainerQuotaAfterUpdate rule clock (s.rateLimitQuota limiterId key)
        (if value ≤ quota.2 then .ok () else .error .exceedLimit, s.setQuota limiterId key quota)
      else if rule = .unlimited then (.ok (), s)
      -- always false, even if the value is zero
      else (.error .exceedLimit, s)
  -- no rule: always true
  | none => (.ok (), s)

/-- `consume`. -/
def consume (s : State LimiterId Key) (limiterId : LimiterId) (key : Key) (value : Nat) : State LimiterId Key :=
  match s.rateLimitRules limiterId key with
  | some rule =>
      if rule.limited then
        s.setQuota limiterId key ((s.rateLimitQuota limiterId key).1, (s.rateLimitQuota limiterId key).2 - value)
      else s
  | none => s

/-- `try_consume` of the `RateLimiter` trait, without a whitelist check. -/
def tryConsume (s : State LimiterId Key) (limiterId : LimiterId) (key : Key) (clock : Clock) (value : Nat) :
    Except RateLimiterError Unit × State LimiterId Key :=
  match canConsume s limiterId key clock value with
  | (.ok (), s) => (.ok (), consume s limiterId key value)
  | (.error e, s) => (.error e, s)

/-- The calls that reach the pallet. -/
inductive Call (LimiterId Key O : Type) where
  | updateRateLimitRule (origin : O) (rateLimiterId : LimiterId) (encodedKey : Key) (update : Option RateLimitRule)
  | canConsume (limiterId : LimiterId) (key : Key) (clock : Clock) (value : Fin (2 ^ 128))
  | tryConsume (limiterId : LimiterId) (key : Key) (clock : Clock) (value : Fin (2 ^ 128))

/-- One call and whether it succeeded; a failed `update_rate_limit_rule` is
rolled back, while a failed `can_consume` keeps its refill. -/
def step (T : Config O) (s : State LimiterId Key) : Call LimiterId Key O → Bool × State LimiterId Key
  | .updateRateLimitRule origin rateLimiterId encodedKey update =>
      match updateRateLimitRule T s origin rateLimiterId encodedKey update with
      | .ok s => (true, s)
      | .error _ => (false, s)
  | .canConsume limiterId key clock value =>
      ((canConsume s limiterId key clock value).1 matches .ok (), (canConsume s limiterId key clock value).2)
  | .tryConsume limiterId key clock value =>
      ((tryConsume s limiterId key clock value).1 matches .ok (), (tryConsume s limiterId key clock value).2)

/-! ## One key at a time -/

section Key

variable (s : State LimiterId Key) (limiterId : LimiterId) (key : Key)

theorem updateRateLimitRule_eq_ok {T : Config O} {origin : O} {update : Option RateLimitRule}
    {s' : State LimiterId Key} (h : updateRateLimitRule T s origin limiterId key update = .ok s') :
    (update.map RateLimitRule.valid).getD true = true ∧
      s' = (s.setRule limiterId key update).setQuota limiterId key (0, 0) := by
  unfold updateRateLimitRule at h
  split_ifs at h with horigin hvalid
  cases h
  exact ⟨hvalid, rfl⟩

theorem canConsume_of_limited {rule : RateLimitRule} (hrule : s.rateLimitRules limiterId key = some rule)
    (hlimited : rule.limited = true) (clock : Clock) (value : Nat) :
    canConsume s limiterId key clock value =
      (if value ≤ (accessRemainerQuotaAfterUpdate rule clock (s.rateLimitQuota limiterId key)).2 then .ok ()
        else .error .exceedLimit,
        s.setQuota limiterId key (accessRemainerQuotaAfterUpdate rule clock (s.rateLimitQuota limiterId key))) := by
  simp [canConsume, hrule, hlimited]

theorem consume_of_limited {rule : RateLimitRule} (hrule : s.rateLimitRules limiterId key = some rule)
    (hlimited : rule.limited = true) (value : Nat) :
    consume s limiterId key value =
      s.setQuota limiterId key ((s.rateLimitQuota limiterId key).1, (s.rateLimitQuota limiterId key).2 - value) := by
  simp [consume, hrule, hlimited]

theorem canConsume_notAllowed (h : s.rateLimitRules limiterId key = some .notAllowed) (clock : Clock) (value : Nat) :
    canConsume s limiterId key clock value = (.error .exceedLimit, s) := by
  simp [canConsume, h, RateLimitRule.limited]

theorem canConsume_unlimited (h : s.rateLimitRules limiterId key = some .unlimited ∨
    s.rateLimitRules limiterId key = none) (clock : Clock) (value : Nat) :
    canConsume s limiterId key clock value = (.ok (), s) := by
  rcases h with h | h <;> simp [canConsume, h, RateLimitRule.limited]

variable {s limiterId key}

theorem canConsume_frame {l : LimiterId} {k : Key} (hne : ¬(l = limiterId ∧ k = key)) (clock : Clock)
    (value : Nat) : (canConsume s limiterId key clock value).2.rateLimitRules = s.rateLimitRules ∧
      (canConsume s limiterId key clock value).2.rateLimitQuota l k = s.rateLimitQuota l k := by
  unfold canConsume
  split
  · split_ifs <;> simp [hne]
  · simp

theorem consume_frame {l : LimiterId} {k : Key} (hne : ¬(l = limiterId ∧ k = key)) (value : Nat) :
    (consume s limiterId key value).rateLimitRules = s.rateLimitRules ∧
      (consume s limiterId key value).rateLimitQuota l k = s.rateLimitQuota l k := by
  unfold consume
  split
  · split_ifs <;> simp [hne]
  · simp

theorem tryConsume_frame {l : LimiterId} {k : Key} (hne : ¬(l = limiterId ∧ k = key)) (clock : Clock)
    (value : Nat) : (tryConsume s limiterId key clock value).2.rateLimitRules = s.rateLimitRules ∧
      (tryConsume s limiterId key clock value).2.rateLimitQuota l k = s.rateLimitQuota l k := by
  obtain ⟨hrules, hquota⟩ := canConsume_frame (s := s) hne clock value
  unfold tryConsume
  split
  · next s' h =>
    rw [h] at hrules hquota
    obtain ⟨hrules', hquota'⟩ := consume_frame (s := s') hne value
    exact ⟨hrules'.trans hrules, hquota'.trans hquota⟩
  · next s' h =>
    rw [h] at hrules hquota
    exact ⟨hrules, hquota⟩

end Key

/-- The access a call makes to the quota of `(limiterId, key)`: its clock, its
value and whether it consumes. -/
def Call.access? (limiterId : LimiterId) (key : Key) : Call LimiterId Key O → Option (Clock × Nat × Bool)
  | .updateRateLimitRule .. => none
  | .canConsume l k clock value => if l = limiterId ∧ k = key then some (clock, value, false) else none
  | .tryConsume l k clock value => if l = limiterId ∧ k = key then some (clock, value, true) else none

/-- Whether a call sets the rule of `(limiterId, key)`. -/
def Call.updates (limiterId : LimiterId) (key : Key) : Call LimiterId Key O → Bool
  | .updateRateLimitRule _ l k _ => decide (l = limiterId ∧ k = key)
  | _ => false

/-- What an access does to a quota kept under `rule`. -/
def keyStep (rule : RateLimitRule) (quota : Nat × Nat) : Option (Clock × Nat × Bool) → Nat × Nat
  | none => quota
  | some (clock, value, consumes) =>
      let quota := accessRemainerQuotaAfterUpdate rule clock quota
      if consumes ∧ value ≤ quota.2 then (quota.1, quota.2 - value) else quota

/-- A call that does not set the rule of a key kept under a quota keeps the
rule, moves the quota as its access says, and a `try_consume` of the key
succeeds exactly when the refilled quota covers its value. -/
theorem step_of_limited (T : Config O) {s : State LimiterId Key} {limiterId : LimiterId} {key : Key}
    {rule : RateLimitRule} (hrule : s.rateLimitRules limiterId key = some rule) (hlimited : rule.limited = true)
    {call : Call LimiterId Key O} (hupdate : call.updates limiterId key = false) :
    (step T s call).2.rateLimitRules limiterId key = some rule ∧
      (step T s call).2.rateLimitQuota limiterId key =
        keyStep rule (s.rateLimitQuota limiterId key) (call.access? limiterId key) ∧
      ∀ clock value, call.access? limiterId key = some (clock, value, true) →
        ((step T s call).1 = true ↔
          value ≤ (accessRemainerQuotaAfterUpdate rule clock (s.rateLimitQuota limiterId key)).2) := by
  cases call with
  | updateRateLimitRule origin l k update =>
      have hne : ¬(l = limiterId ∧ k = key) := by simpa [Call.updates] using hupdate
      simp only [step, Call.access?, keyStep, reduceCtorEq, false_implies, implies_true, and_true]
      split
      · next s' h =>
        obtain ⟨-, rfl⟩ := updateRateLimitRule_eq_ok s l k h
        have hne' : ¬(limiterId = l ∧ key = k) := fun ⟨h1, h2⟩ => hne ⟨h1.symm, h2.symm⟩
        simp [hne', hrule]
      · exact ⟨hrule, rfl⟩
  | canConsume l k clock value =>
      by_cases hkey : l = limiterId ∧ k = key
      · obtain ⟨rfl, rfl⟩ := hkey
        simp [step, Call.access?, keyStep, canConsume_of_limited s l k hrule hlimited, hrule]
      · have hne : ¬(limiterId = l ∧ key = k) := fun ⟨h1, h2⟩ => hkey ⟨h1.symm, h2.symm⟩
        obtain ⟨hrules, hquota⟩ := canConsume_frame (s := s) hne clock value
        simp [step, Call.access?, keyStep, hkey, hrules, hrule, hquota]
  | tryConsume l k clock value =>
      by_cases hkey : l = limiterId ∧ k = key
      · obtain ⟨rfl, rfl⟩ := hkey
        have hrule' : (s.setQuota l k (accessRemainerQuotaAfterUpdate rule clock (s.rateLimitQuota l k))).rateLimitRules
            l k = some rule := hrule
        simp only [step, tryConsume, canConsume_of_limited s l k hrule hlimited, Call.access?, keyStep, and_self,
          if_true, true_and]
        by_cases hle : (value : Nat) ≤ (accessRemainerQuotaAfterUpdate rule clock (s.rateLimitQuota l k)).2
        · simp [hle, consume_of_limited _ l k hrule' hlimited, hrule]
        · simp [hle, hrule]
          omega
      · have hne : ¬(limiterId = l ∧ key = k) := fun ⟨h1, h2⟩ => hkey ⟨h1.symm, h2.symm⟩
        obtain ⟨hrules, hquota⟩ := tryConsume_frame (s := s) hne clock value
        simp [step, Call.access?, keyStep, hkey, hrules, hrule, hquota]

/-- The pallet from a storage `s`, answering each call with the call and its success. -/
def machine (T : Config O) (s : State LimiterId Key) :
    Transition.Machine (State LimiterId Key) (Call LimiterId Key O) (Call LimiterId Key O × Bool) where
  init := s
  step s call := ((call, (step T s call).1), (step T s call).2)

end Setheum.RateLimit
