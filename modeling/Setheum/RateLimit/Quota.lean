import Mathlib
import Setheum.RateLimit.Pallet
import Setheum.Lib.Proportion

/-!
# What a rate limit lets through

Over every run of the pallet's calls in which the rule of one key stays as it
was set and the key's calls come at non-decreasing times (block numbers or
unix seconds, as the rule's period counts them), what the successful
`try_consume` calls of the key take is bounded in every window of time:

* under `PerPeriod`, by the quota between two restarts of the period, and by
  twice the quota in any window of one period;
* under `TokenBucket`, by the maximum quota and one increment per whole period
  of the window, and one more.

Each bound is an invariant of the answered calls and the key's stored quota,
kept by every call; the calls on other keys leave the key's quota alone.
-/

namespace Setheum.RateLimit

variable {LimiterId Key O : Type} [DecidableEq LimiterId] [DecidableEq Key]

/-- A period's length in its unit. -/
def Period.length : Period → Nat
  | blocks blocksCount => blocksCount
  | seconds secsCount => secsCount

@[simp] theorem Period.nowAndCount_snd (clock : Clock) (period : Period) :
    (period.nowAndCount clock).2 = period.length := by
  cases period <;> rfl

theorem Period.valid_iff (period : Period) : period.valid = true ↔ period.length ≠ 0 := by
  cases period <;> simp [Period.valid, Period.length]

/-! ## What the answered calls consumed -/

section Consumed

variable (limiterId : LimiterId) (key : Key) (period : Period)

/-- The time of a call's access to `(limiterId, key)`, in the unit of `period`. -/
def accessTime (call : Call LimiterId Key O) : Option Nat :=
  (call.access? limiterId key).map fun access => (period.nowAndCount access.1).1

/-- The times of the accesses to `(limiterId, key)` among the answered calls. -/
def accessTimes (answers : List (Call LimiterId Key O × Bool)) : List Nat :=
  answers.filterMap fun answer => accessTime limiterId key period answer.1

/-- What an answered call consumed of `(limiterId, key)` at a time in `[lo, hi]`. -/
def consumedBy (lo hi : Nat) : Call LimiterId Key O × Bool → Nat
  | (call, ok) =>
      match call.access? limiterId key with
      | some (clock, value, true) =>
          if ok = true ∧ lo ≤ (period.nowAndCount clock).1 ∧ (period.nowAndCount clock).1 ≤ hi then value else 0
      | _ => 0

/-- What the answered calls consumed of `(limiterId, key)` at times in `[lo, hi]`. -/
def consumedIn (lo hi : Nat) (answers : List (Call LimiterId Key O × Bool)) : Nat :=
  (answers.map (consumedBy limiterId key period lo hi)).sum

variable {limiterId key period}

@[simp] theorem consumedIn_nil (lo hi : Nat) : consumedIn limiterId key period lo hi ([] : List (Call LimiterId Key O × Bool)) = 0 :=
  rfl

theorem append_of_access_none {answers : List (Call LimiterId Key O × Bool)} {call : Call LimiterId Key O}
    (ok : Bool) (h : call.access? limiterId key = none) :
    (∀ lo hi, consumedIn limiterId key period lo hi (answers ++ [(call, ok)]) =
      consumedIn limiterId key period lo hi answers) ∧
    accessTimes limiterId key period (answers ++ [(call, ok)]) = accessTimes limiterId key period answers := by
  refine ⟨fun lo hi => ?_, ?_⟩
  · simp [consumedIn, consumedBy, h]
  · simp [accessTimes, accessTime, h]

theorem append_of_access {answers : List (Call LimiterId Key O × Bool)} {call : Call LimiterId Key O}
    {clock : Clock} {value : Nat} {consumes : Bool} (ok : Bool)
    (h : call.access? limiterId key = some (clock, value, consumes)) :
    (∀ lo hi, consumedIn limiterId key period lo hi (answers ++ [(call, ok)]) =
      consumedIn limiterId key period lo hi answers +
        if consumes = true ∧ ok = true ∧ lo ≤ (period.nowAndCount clock).1 ∧ (period.nowAndCount clock).1 ≤ hi
        then value else 0) ∧
    accessTimes limiterId key period (answers ++ [(call, ok)]) =
      accessTimes limiterId key period answers ++ [(period.nowAndCount clock).1] := by
  refine ⟨fun lo hi => ?_, ?_⟩
  · cases consumes <;> simp [consumedIn, consumedBy, h]
  · simp [accessTimes, accessTime, h]

theorem consumedIn_mono {lo hi lo' hi' : Nat} (hlo : lo' ≤ lo) (hhi : hi ≤ hi')
    (answers : List (Call LimiterId Key O × Bool)) :
    consumedIn limiterId key period lo hi answers ≤ consumedIn limiterId key period lo' hi' answers := by
  apply List.sum_le_sum
  rintro ⟨call, ok⟩ -
  simp only [consumedBy]
  split
  · split_ifs with h₁ h₂ <;> first | omega | exact absurd ⟨h₁.1, by omega, by omega⟩ h₂
  · rfl

theorem consumedIn_eq_zero {lo hi : Nat} {answers : List (Call LimiterId Key O × Bool)}
    (h : ∀ t ∈ accessTimes limiterId key period answers, t < lo) :
    consumedIn limiterId key period lo hi answers = 0 := by
  apply List.sum_eq_zero
  intro x hx
  obtain ⟨⟨call, ok⟩, hmem, rfl⟩ := List.mem_map.1 hx
  simp only [consumedBy]
  split
  · next clock value hacc =>
    have := h (period.nowAndCount clock).1 (List.mem_filterMap.2 ⟨(call, ok), hmem, by simp [accessTime, hacc]⟩)
    rw [if_neg (by omega)]
  · rfl

end Consumed

/-! ## The refills -/

section Refill

variable {period : Period} {clock : Clock} {lastUpdated remainerQuota : Nat}

theorem refill_perPeriod (quota : Nat) :
    accessRemainerQuotaAfterUpdate (.perPeriod period quota) clock (lastUpdated, remainerQuota) =
      if period.length ≤ (period.nowAndCount clock).1 - lastUpdated then ((period.nowAndCount clock).1, quota)
      else (lastUpdated, remainerQuota) := by
  cases period <;> rfl

theorem refill_tokenBucket (quotaIncrement maxQuota : Nat) :
    accessRemainerQuotaAfterUpdate (.tokenBucket period quotaIncrement maxQuota) clock
        (lastUpdated, remainerQuota) =
      if period.length ≠ 0 ∧ period.length ≤ (period.nowAndCount clock).1 - lastUpdated then
        ((period.nowAndCount clock).1,
          min (Balance.saturatingAdd (Balance.saturatingMul quotaIncrement
            (((period.nowAndCount clock).1 - lastUpdated) / period.length)) remainerQuota) maxQuota)
      else (lastUpdated, remainerQuota) := by
  cases period <;> rfl

end Refill

/-! ## One key over a run -/

/-- The induction rule for one key whose rule keeps a quota and is not set
again: a property of the answered calls and the key's quota that holds at the
start and that every call keeps, given that its access comes no earlier than
the earlier ones and that a `try_consume` of the key succeeds exactly when the
refilled quota covers it, holds after every run. -/
theorem key_run_induction (T : Config O) {s : State LimiterId Key} {limiterId : LimiterId} {key : Key}
    (period : Period) {rule : RateLimitRule} (hrule : s.rateLimitRules limiterId key = some rule)
    (hlimited : rule.limited = true) (P : List (Call LimiterId Key O × Bool) → Nat × Nat → Prop)
    (hinit : P [] (s.rateLimitQuota limiterId key))
    (hstep : ∀ answers quota call ok, P answers quota →
      (∀ t ∈ accessTimes limiterId key period answers, ∀ t' ∈ accessTime limiterId key period call, t ≤ t') →
      (∀ clock value, call.access? limiterId key = some (clock, value, true) →
        (ok = true ↔ value ≤ (accessRemainerQuotaAfterUpdate rule clock quota).2)) →
      P (answers ++ [(call, ok)]) (keyStep rule quota (call.access? limiterId key)))
    (calls : List (Call LimiterId Key O)) (hupdates : ∀ call ∈ calls, call.updates limiterId key = false)
    (hmono : (calls.filterMap (accessTime limiterId key period)).Pairwise (· ≤ ·)) :
    P ((machine T s).run calls).1 (((machine T s).run calls).2.rateLimitQuota limiterId key) := by
  have hrun := (machine T s).run_induction (fun calls answers s' =>
      (∀ call ∈ calls, call.updates limiterId key = false) →
        (calls.filterMap (accessTime limiterId key period)).Pairwise (· ≤ ·) →
        answers.map Prod.fst = calls ∧ s'.rateLimitRules limiterId key = some rule ∧
          P answers (s'.rateLimitQuota limiterId key))
    (fun _ _ => ⟨rfl, hrule, hinit⟩) ?_ calls
  · exact (hrun hupdates hmono).2.2
  intro calls answers s' call ih hupd hmono'
  rw [List.filterMap_append, List.pairwise_append] at hmono'
  obtain ⟨hmap, hrule', hP⟩ := ih (fun c hc => hupd c (List.mem_append_left _ hc)) hmono'.1
  obtain ⟨hr, hq, hok⟩ := step_of_limited T hrule' hlimited (hupd call (by simp))
  refine ⟨by simp [machine, hmap], hr, ?_⟩
  simp only [machine]
  rw [hq]
  refine hstep _ _ _ _ hP (fun t ht t' ht' => hmono'.2.2 t ?_ t' (by simpa using ht')) hok
  simpa [accessTimes, List.filterMap_map, ← hmap] using ht

theorem keyStep_some (rule : RateLimitRule) (quota : Nat × Nat) (clock : Clock) (value : Nat)
    {consumes ok : Bool}
    (hok : consumes = true → (ok = true ↔ value ≤ (accessRemainerQuotaAfterUpdate rule clock quota).2)) :
    keyStep rule quota (some (clock, value, consumes)) =
      ((accessRemainerQuotaAfterUpdate rule clock quota).1,
        (accessRemainerQuotaAfterUpdate rule clock quota).2 - if consumes = true ∧ ok = true then value else 0) ∧
    (if consumes = true ∧ ok = true then value else 0) ≤ (accessRemainerQuotaAfterUpdate rule clock quota).2 := by
  cases consumes
  · simp [keyStep]
  · have hok := hok rfl
    cases ok <;> simp_all [keyStep]

/-- The induction rule in the terms of a window accounting: an invariant of what
was consumed at times in each window, of the access times and of the key's
quota, that every access keeps whatever it takes of the refilled quota, holds
after every run. -/
theorem key_run_invariant (T : Config O) {s : State LimiterId Key} {limiterId : LimiterId} {key : Key}
    (period : Period) {rule : RateLimitRule} (hrule : s.rateLimitRules limiterId key = some rule)
    (hlimited : rule.limited = true) (I : (Nat → Nat → Nat) → List Nat → Nat × Nat → Prop)
    (hinit : I (fun _ _ => 0) [] (s.rateLimitQuota limiterId key))
    (hstep : ∀ C times quota clock d, I C times quota →
      (∀ lo hi lo' hi', lo' ≤ lo → hi ≤ hi' → C lo hi ≤ C lo' hi') →
      (∀ lo hi, (∀ t ∈ times, t < lo) → C lo hi = 0) →
      (∀ t ∈ times, t ≤ (period.nowAndCount clock).1) →
      d ≤ (accessRemainerQuotaAfterUpdate rule clock quota).2 →
      I (fun lo hi => C lo hi +
          if lo ≤ (period.nowAndCount clock).1 ∧ (period.nowAndCount clock).1 ≤ hi then d else 0)
        (times ++ [(period.nowAndCount clock).1])
        ((accessRemainerQuotaAfterUpdate rule clock quota).1, (accessRemainerQuotaAfterUpdate rule clock quota).2 - d))
    (calls : List (Call LimiterId Key O)) (hupdates : ∀ call ∈ calls, call.updates limiterId key = false)
    (hmono : (calls.filterMap (accessTime limiterId key period)).Pairwise (· ≤ ·)) :
    I (fun lo hi => consumedIn limiterId key period lo hi ((machine T s).run calls).1)
      (accessTimes limiterId key period ((machine T s).run calls).1)
      (((machine T s).run calls).2.rateLimitQuota limiterId key) := by
  refine key_run_induction T period hrule hlimited (fun answers quota =>
      I (fun lo hi => consumedIn limiterId key period lo hi answers) (accessTimes limiterId key period answers) quota)
    hinit ?_ calls hupdates hmono
  intro answers quota call ok hI hlate hok
  cases hacc : call.access? limiterId key with
  | none =>
    obtain ⟨hC, htimes⟩ := @append_of_access_none LimiterId Key O _ _ limiterId key period answers call ok hacc
    simpa only [keyStep, hC, htimes] using hI
  | some access =>
    obtain ⟨clock, value, consumes⟩ := access
    obtain ⟨hC, htimes⟩ := @append_of_access LimiterId Key O _ _ limiterId key period answers call clock value consumes ok hacc
    obtain ⟨hkey, hd⟩ := keyStep_some rule quota clock value fun hc => hok clock value (hc ▸ hacc)
    have hC' : (fun lo hi => consumedIn limiterId key period lo hi (answers ++ [(call, ok)])) =
        fun lo hi => consumedIn limiterId key period lo hi answers +
          if lo ≤ (period.nowAndCount clock).1 ∧ (period.nowAndCount clock).1 ≤ hi then
            (if consumes = true ∧ ok = true then value else 0) else 0 := by
      funext lo hi
      rw [hC]
      congr 1
      split_ifs <;> first | rfl | (exfalso; tauto)
    rw [hkey, hC', htimes]
    exact hstep _ _ _ clock _ hI (fun _ _ _ _ hlo hhi => consumedIn_mono hlo hhi answers)
      (fun _ _ h => consumedIn_eq_zero h) (fun t ht => hlate t ht _ (by simp [accessTime, hacc])) hd

/-! ## `PerPeriod` -/

section PerPeriod

variable (period : Period) (quota w : Nat)

/-- What a `PerPeriod` quota keeps true of a key's history, for the window of
one period from `w`: `C lo hi` is what was consumed at times in `[lo, hi]`,
`times` are the times of the accesses and `q` is the stored
`(last_updated, remainer_quota)`, whose first part is when the current period
started. What the current period consumed and what it has left make at most
one quota, and a window of one period meets at most two periods. -/
structure PerPeriodInv (C : Nat → Nat → Nat) (times : List Nat) (q : Nat × Nat) : Prop where
  last_le : ∀ t, (∀ t' ∈ times, t' ≤ t) → q.1 ≤ t
  before_next : ∀ t ∈ times, t < q.1 + period.length
  remainer_le : q.2 ≤ quota
  since_reset : ∀ hi, C q.1 hi + q.2 ≤ quota
  window_open : w < q.1 → q.1 ≤ w + period.length → C w (w + period.length) + q.2 ≤ 2 * quota
  window : C w (w + period.length) ≤ 2 * quota

theorem PerPeriodInv.init : PerPeriodInv period quota w (fun _ _ => 0) [] (0, 0) where
  last_le _ _ := Nat.zero_le _
  before_next _ h := absurd h List.not_mem_nil
  remainer_le := Nat.zero_le _
  since_reset _ := Nat.zero_le _
  window_open h := absurd h (Nat.not_lt_zero _)
  window := Nat.zero_le _

variable {period quota w}

theorem PerPeriodInv.access (hperiod : period.length ≠ 0) {C : Nat → Nat → Nat} {times : List Nat}
    {q : Nat × Nat} (h : PerPeriodInv period quota w C times q)
    (hmono : ∀ lo hi lo' hi', lo' ≤ lo → hi ≤ hi' → C lo hi ≤ C lo' hi')
    (hzero : ∀ lo hi, (∀ t ∈ times, t < lo) → C lo hi = 0)
    {clock : Clock} (hlate : ∀ t ∈ times, t ≤ (period.nowAndCount clock).1) {d : Nat}
    (hd : d ≤ (accessRemainerQuotaAfterUpdate (.perPeriod period quota) clock q).2) :
    PerPeriodInv period quota w
      (fun lo hi => C lo hi +
        if lo ≤ (period.nowAndCount clock).1 ∧ (period.nowAndCount clock).1 ≤ hi then d else 0)
      (times ++ [(period.nowAndCount clock).1])
      ((accessRemainerQuotaAfterUpdate (.perPeriod period quota) clock q).1,
        (accessRemainerQuotaAfterUpdate (.perPeriod period quota) clock q).2 - d) := by
  obtain ⟨lastUpdated, remainerQuota⟩ := q
  have hlast : lastUpdated ≤ (period.nowAndCount clock).1 := h.last_le _ hlate
  rw [refill_perPeriod] at hd ⊢
  set t := (period.nowAndCount clock).1
  have hnext : ∀ x ∈ times, x < lastUpdated + period.length := h.before_next
  have hrem : remainerQuota ≤ quota := h.remainer_le
  have hsince : ∀ hi, C lastUpdated hi + remainerQuota ≤ quota := h.since_reset
  have hopen : w < lastUpdated → lastUpdated ≤ w + period.length →
      C w (w + period.length) + remainerQuota ≤ 2 * quota := h.window_open
  have hwin : C w (w + period.length) ≤ 2 * quota := h.window
  split_ifs at hd ⊢ with hreset
  · -- a new period starts at `t` with the full quota; nothing was consumed from `t` on before
    have hfresh : ∀ hi, C t hi = 0 := fun hi => hzero t hi fun x hx => by
      have := hnext x hx
      omega
    have hprev : t ≤ w + period.length → C w (w + period.length) ≤ quota := fun hin => by
      have := hmono w (w + period.length) lastUpdated (w + period.length) (by omega) le_rfl
      have := hsince (w + period.length)
      omega
    refine ⟨fun t' ht' => ht' t (by simp), ?_, by dsimp only; omega, fun hi => ?_, fun hw hin => ?_, ?_⟩
    · simp only [List.mem_append, List.mem_singleton]
      rintro x (hx | rfl)
      · have := hlate x hx
        omega
      · omega
    · have := hfresh hi
      dsimp only
      split_ifs <;> omega
    · have := hprev hin
      dsimp only
      split_ifs <;> omega
    · split_ifs with hin
      · have := hprev hin.2
        omega
      · simpa using hwin
  · -- the period goes on, and `t` falls in it
    refine ⟨fun t' ht' => h.last_le t' fun x hx => ht' x (List.mem_append_left _ hx), ?_, by dsimp only; omega,
      fun hi => ?_, fun hw hin => ?_, ?_⟩
    · simp only [List.mem_append, List.mem_singleton]
      rintro x (hx | rfl)
      · exact hnext x hx
      · omega
    · have := hsince hi
      dsimp only
      split_ifs <;> omega
    · have := hopen hw hin
      dsimp only
      split_ifs <;> omega
    · split_ifs with hin
      · by_cases hlw : lastUpdated ≤ w
        · -- the window starts inside the current period
          have := hmono w (w + period.length) lastUpdated (w + period.length) hlw le_rfl
          have := hsince (w + period.length)
          omega
        · have := hopen (by omega) (by omega)
          omega
      · simpa using hwin

end PerPeriod

/-! ## `TokenBucket` -/

section TokenBucket

variable (period : Period) (quotaIncrement maxQuota w L : Nat)

/-- What a `TokenBucket` quota keeps true of a key's history, for the window
`[w, w + L]`, in the terms of `PerPeriodInv`. The bucket holds at most its
maximum. While the last refill is a whole period or more before the window,
nothing in it was consumed. While the last refill is not past the window, what
the window holds and what is left make at most the maximum and one increment
per whole period from a period before the window to that refill; once past
it, what the window holds is at most the maximum and one increment per whole
period from a period before the window to its end. -/
structure TokenBucketInv (C : Nat → Nat → Nat) (times : List Nat) (q : Nat × Nat) : Prop where
  last_le : ∀ t, (∀ t' ∈ times, t' ≤ t) → q.1 ≤ t
  remainer_le : q.2 ≤ maxQuota
  idle : q.1 + period.length ≤ w → C w (w + L) = 0
  window_open : q.1 ≤ w + L →
    C w (w + L) + q.2 ≤ maxQuota + quotaIncrement * ((q.1 - (w + 1 - period.length)) / period.length)
  window_closed : w + L < q.1 →
    C w (w + L) ≤ maxQuota + quotaIncrement * ((w + L - (w + 1 - period.length)) / period.length)

theorem TokenBucketInv.init : TokenBucketInv period quotaIncrement maxQuota w L (fun _ _ => 0) [] (0, 0) where
  last_le _ _ := Nat.zero_le _
  remainer_le := Nat.zero_le _
  idle _ := rfl
  window_open _ := Nat.zero_le _
  window_closed _ := Nat.zero_le _

variable {period quotaIncrement maxQuota w L}

theorem refill_le (remainerQuota n : Nat) :
    min (Balance.saturatingAdd (Balance.saturatingMul quotaIncrement n) remainerQuota) maxQuota ≤
      remainerQuota + quotaIncrement * n := by
  have hmul : Balance.saturatingMul quotaIncrement n ≤ quotaIncrement * n := min_le_left _ _
  have hadd : Balance.saturatingAdd (Balance.saturatingMul quotaIncrement n) remainerQuota ≤
      Balance.saturatingMul quotaIncrement n + remainerQuota := min_le_left _ _
  omega

theorem TokenBucketInv.access (hperiod : period.length ≠ 0) {C : Nat → Nat → Nat} {times : List Nat}
    {q : Nat × Nat} (h : TokenBucketInv period quotaIncrement maxQuota w L C times q)
    (hzero : ∀ lo hi, (∀ t ∈ times, t < lo) → C lo hi = 0)
    {clock : Clock} (hlate : ∀ t ∈ times, t ≤ (period.nowAndCount clock).1) {d : Nat}
    (hd : d ≤ (accessRemainerQuotaAfterUpdate (.tokenBucket period quotaIncrement maxQuota) clock q).2) :
    TokenBucketInv period quotaIncrement maxQuota w L
      (fun lo hi => C lo hi +
        if lo ≤ (period.nowAndCount clock).1 ∧ (period.nowAndCount clock).1 ≤ hi then d else 0)
      (times ++ [(period.nowAndCount clock).1])
      ((accessRemainerQuotaAfterUpdate (.tokenBucket period quotaIncrement maxQuota) clock q).1,
        (accessRemainerQuotaAfterUpdate (.tokenBucket period quotaIncrement maxQuota) clock q).2 - d) := by
  obtain ⟨lastUpdated, remainerQuota⟩ := q
  have hlast : lastUpdated ≤ (period.nowAndCount clock).1 := h.last_le _ hlate
  rw [refill_tokenBucket] at hd ⊢
  set t := (period.nowAndCount clock).1
  have hrem : remainerQuota ≤ maxQuota := h.remainer_le
  have hidle : lastUpdated + period.length ≤ w → C w (w + L) = 0 := h.idle
  have hopen : lastUpdated ≤ w + L →
      C w (w + L) + remainerQuota ≤ maxQuota + quotaIncrement * ((lastUpdated - (w + 1 - period.length)) / period.length) :=
    h.window_open
  have hclosed : w + L < lastUpdated →
      C w (w + L) ≤ maxQuota + quotaIncrement * ((w + L - (w + 1 - period.length)) / period.length) := h.window_closed
  have hbefore : t < w → C w (w + L) = 0 := fun htw => hzero w (w + L) fun x hx => by
    have := hlate x hx
    omega
  split_ifs at hd ⊢ with hrefill
  · -- a refill at `t`
    have hfill := @refill_le quotaIncrement maxQuota remainerQuota
      ((t - lastUpdated) / period.length)
    have hcap := min_le_right (Balance.saturatingAdd (Balance.saturatingMul quotaIncrement
      ((t - lastUpdated) / period.length)) remainerQuota) maxQuota
    refine ⟨fun t' ht' => ht' t (by simp), by dsimp only; omega, fun hidle' => ?_, fun hin => ?_,
      fun hout => ?_⟩
    · have := hbefore (by dsimp only at hidle'; omega)
      dsimp only at hidle' ⊢
      rw [if_neg (by omega)]
      omega
    · dsimp only at hin ⊢
      by_cases htw : t < w
      · have := hbefore htw
        rw [if_neg (by omega)]
        omega
      by_cases hlw : lastUpdated + period.length ≤ w
      · have := hidle hlw
        split_ifs <;> omega
      · -- the periods up to the last refill and those it added make the periods up to `t`
        have hspan := Proportion.mul_div_add_le quotaIncrement (lastUpdated - (w + 1 - period.length))
          (t - lastUpdated) period.length
        rw [show lastUpdated - (w + 1 - period.length) + (t - lastUpdated) = t - (w + 1 - period.length) by
          omega] at hspan
        have := hopen (by omega)
        split_ifs <;> omega
    · dsimp only at hout ⊢
      rw [if_neg (by omega)]
      by_cases hlw : w + L < lastUpdated
      · simpa using hclosed hlw
      · have := hopen (by omega)
        have : quotaIncrement * ((lastUpdated - (w + 1 - period.length)) / period.length) ≤
            quotaIncrement * ((w + L - (w + 1 - period.length)) / period.length) :=
          Nat.mul_le_mul_left _ (Nat.div_le_div_right (by omega))
        omega
  · -- no refill: `t` falls within a period of the last one
    have hnear : t < lastUpdated + period.length := by omega
    refine ⟨fun t' ht' => h.last_le t' fun x hx => ht' x (List.mem_append_left _ hx), by dsimp only; omega,
      fun hidle' => ?_, fun hin => ?_, fun hout => ?_⟩
    · have := hidle hidle'
      dsimp only at hidle'
      rw [if_neg (by omega)]
      omega
    · have := hopen hin
      dsimp only
      split_ifs <;> omega
    · have := hclosed hout
      dsimp only at hout
      rw [if_neg (by omega)]
      omega

theorem TokenBucketInv.consumed_le (hperiod : period.length ≠ 0) {C : Nat → Nat → Nat} {times : List Nat}
    {q : Nat × Nat} (h : TokenBucketInv period quotaIncrement maxQuota w L C times q) :
    C w (w + L) ≤ maxQuota + quotaIncrement * (L / period.length) + quotaIncrement := by
  -- a period before the window to its end spans at most `L + period.length - 1`
  have hspan : quotaIncrement * ((w + L - (w + 1 - period.length)) / period.length) ≤
      quotaIncrement * (L / period.length) + quotaIncrement := calc
    quotaIncrement * ((w + L - (w + 1 - period.length)) / period.length)
        ≤ quotaIncrement * ((L + period.length - 1) / period.length) :=
      Nat.mul_le_mul_left _ (Nat.div_le_div_right (by omega))
    _ ≤ quotaIncrement * (L / period.length + 1) :=
      Nat.mul_le_mul_left _ (Proportion.div_add_pred_le L period.length (by omega))
    _ = quotaIncrement * (L / period.length) + quotaIncrement := by rw [Nat.mul_add, Nat.mul_one]
  by_cases hl : q.1 ≤ w + L
  · have := h.window_open hl
    have : quotaIncrement * ((q.1 - (w + 1 - period.length)) / period.length) ≤
        quotaIncrement * ((w + L - (w + 1 - period.length)) / period.length) :=
      Nat.mul_le_mul_left _ (Nat.div_le_div_right (by omega))
    omega
  · have := h.window_closed (by omega)
    omega

end TokenBucket

/-! ## Over a run -/

section Run

variable (T : Config O) {s s₀ : State LimiterId Key} {origin : O} {limiterId : LimiterId} {key : Key}

theorem RateLimitRule.valid_perPeriod (period : Period) (quota : Nat) :
    (RateLimitRule.perPeriod period quota).valid = true ↔ period.length ≠ 0 ∧ quota ≠ 0 := by
  simp [RateLimitRule.valid, ← Period.valid_iff]

theorem RateLimitRule.valid_tokenBucket (period : Period) (quotaIncrement maxQuota : Nat) :
    (RateLimitRule.tokenBucket period quotaIncrement maxQuota).valid = true ↔
      period.length ≠ 0 ∧ quotaIncrement ≠ 0 ∧ maxQuota ≠ 0 := by
  simp [RateLimitRule.valid, ← Period.valid_iff]

theorem updateRateLimitRule_set {rule : RateLimitRule}
    (hset : updateRateLimitRule T s origin limiterId key (some rule) = .ok s₀) :
    rule.valid = true ∧ s₀.rateLimitRules limiterId key = some rule ∧ s₀.rateLimitQuota limiterId key = (0, 0) := by
  obtain ⟨hvalid, rfl⟩ := updateRateLimitRule_eq_ok s limiterId key hset
  exact ⟨by simpa using hvalid, by simp, by simp⟩

theorem updateRateLimitRule_of_invalid (horigin : T.governanceOrigin origin = true) {rule : RateLimitRule}
    (hinvalid : rule.valid = false) :
    updateRateLimitRule T s origin limiterId key (some rule) = .error (.module .invalidRateLimitRule) := by
  simp [updateRateLimitRule, horigin, hinvalid]

variable (limiterId key)

/-- Over every run from a `PerPeriod` rule just set, in which the rule is not
set again and the key's accesses come at non-decreasing times, the invariant
holds for every window of one period. -/
theorem perPeriodInv_run {period : Period} {quota : Nat}
    (hset : updateRateLimitRule T s origin limiterId key (some (.perPeriod period quota)) = .ok s₀)
    (calls : List (Call LimiterId Key O)) (hupdates : ∀ call ∈ calls, call.updates limiterId key = false)
    (hmono : (calls.filterMap (accessTime limiterId key period)).Pairwise (· ≤ ·)) (w : Nat) :
    PerPeriodInv period quota w (fun lo hi => consumedIn limiterId key period lo hi ((machine T s₀).run calls).1)
      (accessTimes limiterId key period ((machine T s₀).run calls).1)
      (((machine T s₀).run calls).2.rateLimitQuota limiterId key) := by
  obtain ⟨hvalid, hrule, hquota⟩ := updateRateLimitRule_set T hset
  have hperiod : period.length ≠ 0 := ((RateLimitRule.valid_perPeriod period quota).1 hvalid).1
  refine key_run_invariant T period hrule rfl (PerPeriodInv period quota w) ?_
    (fun _ _ _ _ _ h hmono' hzero hlate hd => h.access hperiod hmono' hzero hlate hd) calls hupdates hmono
  rw [hquota]
  exact PerPeriodInv.init period quota w

theorem tokenBucketInv_run {period : Period} {quotaIncrement maxQuota : Nat}
    (hset : updateRateLimitRule T s origin limiterId key
      (some (.tokenBucket period quotaIncrement maxQuota)) = .ok s₀)
    (calls : List (Call LimiterId Key O)) (hupdates : ∀ call ∈ calls, call.updates limiterId key = false)
    (hmono : (calls.filterMap (accessTime limiterId key period)).Pairwise (· ≤ ·)) (w L : Nat) :
    TokenBucketInv period quotaIncrement maxQuota w L
      (fun lo hi => consumedIn limiterId key period lo hi ((machine T s₀).run calls).1)
      (accessTimes limiterId key period ((machine T s₀).run calls).1)
      (((machine T s₀).run calls).2.rateLimitQuota limiterId key) := by
  obtain ⟨hvalid, hrule, hquota⟩ := updateRateLimitRule_set T hset
  have hperiod : period.length ≠ 0 :=
    ((RateLimitRule.valid_tokenBucket period quotaIncrement maxQuota).1 hvalid).1
  refine key_run_invariant T period hrule rfl (TokenBucketInv period quotaIncrement maxQuota w L) ?_
    (fun _ _ _ _ _ h _ hzero hlate hd => h.access hperiod hzero hlate hd) calls hupdates hmono
  rw [hquota]
  exact TokenBucketInv.init period quotaIncrement maxQuota w L

variable {limiterId key}

theorem step_of_notAllowed (h : s.rateLimitRules limiterId key = some .notAllowed) (clock : Clock)
    (value : Fin (2 ^ 128)) :
    step T s (.canConsume limiterId key clock value) = (false, s) ∧
      step T s (.tryConsume limiterId key clock value) = (false, s) := by
  simp [step, tryConsume, canConsume_notAllowed s limiterId key h]

theorem step_of_unlimited (h : s.rateLimitRules limiterId key = some .unlimited ∨
    s.rateLimitRules limiterId key = none) (clock : Clock) (value : Fin (2 ^ 128)) :
    step T s (.canConsume limiterId key clock value) = (true, s) ∧
      step T s (.tryConsume limiterId key clock value) = (true, s) := by
  have hconsume : consume s limiterId key value = s := by
    rcases h with h | h <;> simp [consume, h, RateLimitRule.limited]
  simp [step, tryConsume, canConsume_unlimited s limiterId key h, hconsume]

end Run

theorem rateLimit_bounds_consumption_per_key (T : Config O) (s : State LimiterId Key) (origin : O)
    (limiterId : LimiterId) (key : Key) :
    (∀ period quota s₀ (calls : List (Call LimiterId Key O)),
      updateRateLimitRule T s origin limiterId key (some (.perPeriod period quota)) = .ok s₀ →
      (∀ call ∈ calls, call.updates limiterId key = false) →
      (calls.filterMap (accessTime limiterId key period)).Pairwise (· ≤ ·) →
      let answers := ((machine T s₀).run calls).1
      let q := ((machine T s₀).run calls).2.rateLimitQuota limiterId key
      q.2 ≤ quota ∧ (∀ hi, consumedIn limiterId key period q.1 hi answers + q.2 ≤ quota) ∧
        ∀ w, consumedIn limiterId key period w (w + period.length) answers ≤ 2 * quota) ∧
    (∀ period quotaIncrement maxQuota s₀ (calls : List (Call LimiterId Key O)),
      updateRateLimitRule T s origin limiterId key (some (.tokenBucket period quotaIncrement maxQuota)) = .ok s₀ →
      (∀ call ∈ calls, call.updates limiterId key = false) →
      (calls.filterMap (accessTime limiterId key period)).Pairwise (· ≤ ·) →
      let answers := ((machine T s₀).run calls).1
      (((machine T s₀).run calls).2.rateLimitQuota limiterId key).2 ≤ maxQuota ∧
        ∀ w L, consumedIn limiterId key period w (w + L) answers ≤
          maxQuota + quotaIncrement * (L / period.length) + quotaIncrement) ∧
    (s.rateLimitRules limiterId key = some .notAllowed → ∀ clock value,
      (step T s (.canConsume limiterId key clock value)).1 = false ∧
        (step T s (.tryConsume limiterId key clock value)).1 = false) ∧
    (s.rateLimitRules limiterId key = some .unlimited ∨ s.rateLimitRules limiterId key = none → ∀ clock value,
      (step T s (.canConsume limiterId key clock value)).1 = true ∧
        (step T s (.tryConsume limiterId key clock value)).1 = true) ∧
    (T.governanceOrigin origin = true →
      (∀ period quota, period.length = 0 ∨ quota = 0 →
        updateRateLimitRule T s origin limiterId key (some (.perPeriod period quota)) =
          .error (.module .invalidRateLimitRule)) ∧
      ∀ period quotaIncrement maxQuota, period.length = 0 ∨ quotaIncrement = 0 ∨ maxQuota = 0 →
        updateRateLimitRule T s origin limiterId key (some (.tokenBucket period quotaIncrement maxQuota)) =
          .error (.module .invalidRateLimitRule)) := by
  refine ⟨fun period quota s₀ calls hset hupdates hmono => ?_, fun period quotaIncrement maxQuota s₀ calls hset
    hupdates hmono => ?_, fun h clock value => ?_, fun h clock value => ?_, fun horigin => ⟨?_, ?_⟩⟩
  · have h := perPeriodInv_run T limiterId key hset calls hupdates hmono
    exact ⟨(h 0).remainer_le, (h 0).since_reset, fun w => (h w).window⟩
  · have h := tokenBucketInv_run T limiterId key hset calls hupdates hmono
    have hperiod : period.length ≠ 0 :=
      ((RateLimitRule.valid_tokenBucket period quotaIncrement maxQuota).1 (updateRateLimitRule_set T hset).1).1
    exact ⟨(h 0 0).remainer_le, fun w L => (h w L).consumed_le hperiod⟩
  · obtain ⟨hcan, htry⟩ := step_of_notAllowed T h clock value
    simp [hcan, htry]
  · obtain ⟨hcan, htry⟩ := step_of_unlimited T h clock value
    simp [hcan, htry]
  · intro period quota hzero
    refine updateRateLimitRule_of_invalid T horigin ?_
    rw [← Bool.not_eq_true, RateLimitRule.valid_perPeriod]
    omega
  · intro period quotaIncrement maxQuota hzero
    refine updateRateLimitRule_of_invalid T horigin ?_
    rw [← Bool.not_eq_true, RateLimitRule.valid_tokenBucket]
    omega

namespace Reference

/-- Every origin passes. -/
def config : Config Unit := ⟨fun _ => true⟩

/-- The storage once `rule` is set for the one key. -/
def ruleSet (rule : RateLimitRule) : State Unit Unit :=
  (State.empty.setRule () () (some rule)).setQuota () () (0, 0)

/-- Three units at blocks 12, 21 and 22. -/
def calls : List (Call Unit Unit Unit) :=
  [.tryConsume () () ⟨12, 0⟩ 3, .tryConsume () () ⟨21, 0⟩ 3, .tryConsume () () ⟨22, 0⟩ 3]

end Reference

/-- Five units per ten blocks: the accesses at blocks 12 and 22 open two periods
and pass; the one at 21 finds two units left and is turned down. -/
example : ((machine Reference.config (Reference.ruleSet (.perPeriod (.blocks 10) 5))).run
    Reference.calls).1.map Prod.snd = [true, false, true] := by decide

/-- Two units per ten blocks up to four: the bucket holds two at blocks 12 and
21, too few, and four at block 22, when the last access passes. -/
example : ((machine Reference.config (Reference.ruleSet (.tokenBucket (.blocks 10) 2 4))).run
    Reference.calls).1.map Prod.snd = [false, false, true] := by decide

theorem rateLimit_bounds_consumption_per_key_reference :
    updateRateLimitRule Reference.config State.empty () () () (some (.perPeriod (.blocks 10) 5)) =
      .ok (Reference.ruleSet (.perPeriod (.blocks 10) 5)) ∧
    (∀ call ∈ Reference.calls, call.updates () () = false) ∧
    (Reference.calls.filterMap (accessTime () () (.blocks 10))).Pairwise (· ≤ ·) ∧
    ∀ w, consumedIn () () (.blocks 10) w (w + 10)
      ((machine Reference.config (Reference.ruleSet (.perPeriod (.blocks 10) 5))).run Reference.calls).1 ≤ 2 * 5 :=
  have hset : updateRateLimitRule Reference.config State.empty () () () (some (.perPeriod (.blocks 10) 5)) =
      .ok (Reference.ruleSet (.perPeriod (.blocks 10) 5)) := rfl
  have hupdates : ∀ call ∈ Reference.calls, call.updates () () = false := by decide
  have hmono : (Reference.calls.filterMap (accessTime () () (.blocks 10))).Pairwise (· ≤ ·) := by decide
  ⟨hset, hupdates, hmono, ((rateLimit_bounds_consumption_per_key Reference.config State.empty () () ()).1
    (.blocks 10) 5 _ Reference.calls hset hupdates hmono).2.2⟩

end Setheum.RateLimit
