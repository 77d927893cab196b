import Mathlib

/-!
# The token bucket of the finality rate limiter

`TokenBucket` of `rate-limiter`: `requested` counts the tokens handed out
against the `rate_per_second` the bucket holds at most, and the tokens come
back only in `update_tokens`, for the whole time since `last_update`. Instants
are nanoseconds; the time a call is made at is the one its `TimeProvider`
gives, passed with the call. A panic of the source (the assertion that time
does not run backwards) is `none`.

`rate_limit` refills only when the tokens it has are not enough. A bucket that
was full at its last update and lends its tokens out without refilling is then
refilled for the whole time since, as if it had stayed full meanwhile, and
hands out almost twice its rate at one instant.
-/

namespace Setheum.RateLimiter

/-! ## `u64` and `u128` arithmetic -/

namespace U64

def saturatingAdd (a b : Nat) : Nat := min (a + b) (2 ^ 64 - 1)

def saturatingMul (a b : Nat) : Nat := min (a * b) (2 ^ 64 - 1)

/-- `u128::try_into::<u64>().unwrap_or(u64::MAX)`. -/
def ofU128OrMax (a : Nat) : Nat := if a < 2 ^ 64 then a else 2 ^ 64 - 1

end U64

/-- Nanoseconds in a millisecond. -/
def nanosPerMilli : Nat := 1000000

structure TokenBucket where
  lastUpdate : Nat
  ratePerSecond : Nat
  requested : Nat
  deriving DecidableEq, Repr

namespace TokenBucket

/-- `new_internal`: the bucket starts with all its tokens handed out. -/
def new (ratePerSecond now : Nat) : TokenBucket := ⟨now, ratePerSecond, ratePerSecond⟩

variable (b : TokenBucket)

def upperBoundOfTokens : Nat := b.ratePerSecond

def available : Option Nat :=
  if b.requested ≤ b.upperBoundOfTokens then some (b.upperBoundOfTokens - b.requested) else none

def accountRequestedTokens (requested : Nat) : TokenBucket :=
  { b with requested := U64.saturatingAdd b.requested requested }

def calculateDelay : Option Nat :=
  if b.available.isSome then none
  else
    let scheduledForLater := b.requested - b.upperBoundOfTokens
    let delayMillis := U64.saturatingMul scheduledForLater 1000 / b.ratePerSecond
    some (b.lastUpdate + delayMillis * nanosPerMilli)

/-- `update_tokens`, with the provider's time `now`. -/
def updateTokens (now : Nat) : Option TokenBucket :=
  if now < b.lastUpdate then none
  else
    let timeSinceLastUpdate := now - b.lastUpdate
    let newUnits := U64.ofU128OrMax
      (min (timeSinceLastUpdate / nanosPerMilli * b.ratePerSecond) (2 ^ 128 - 1) / 1000)
    some { b with lastUpdate := now, requested := b.requested - newUnits }

/-- `set_rate`: the tokens left stay, up to the new rate; a debt stays a debt. -/
def setRate (ratePerSecond now : Nat) : Option TokenBucket := do
  let b ← b.updateTokens now
  let available := b.available
  let previousRatePerSecond := b.ratePerSecond
  let b := { b with ratePerSecond }
  match available with
  | some available =>
      let maxForAvailable := b.upperBoundOfTokens
      let availableAfterRateUpdate := min available maxForAvailable
      pure { b with requested := b.ratePerSecond - availableAfterRateUpdate }
  | none => pure { b with requested := b.requested - previousRatePerSecond + b.ratePerSecond }

/-- `rate_limit` at the time `now`: the bucket after the call and the instant
the caller should wait for, if any. -/
def rateLimit (requested now : Nat) : Option (TokenBucket × Option Nat) := do
  let nowAvailable := b.available.getD 0
  let b ← (if nowAvailable < requested then b.updateTokens now else pure b)
  let b := b.accountRequestedTokens requested
  pure (b, b.calculateDelay)

/-! ## What a call does -/

variable {b}

theorem rateLimit_of_le {requested : Nat} (h : requested ≤ b.available.getD 0) (now : Nat) :
    b.rateLimit requested now =
      some (b.accountRequestedTokens requested, (b.accountRequestedTokens requested).calculateDelay) := by
  simp [rateLimit, Nat.not_lt.mpr h]

theorem rateLimit_of_lt {requested now : Nat} (h : b.available.getD 0 < requested) :
    b.rateLimit requested now = (b.updateTokens now).map fun b =>
      (b.accountRequestedTokens requested, (b.accountRequestedTokens requested).calculateDelay) := by
  simp only [rateLimit, if_pos h]
  cases b.updateTokens now <;> rfl

theorem updateTokens_seconds {now : Nat} (seconds : Nat) (hnow : now = b.lastUpdate + seconds * 1000000000)
    (hfit : seconds * b.ratePerSecond < 2 ^ 64) :
    b.updateTokens now = some { b with lastUpdate := now, requested := b.requested - seconds * b.ratePerSecond } := by
  have hms : (now - b.lastUpdate) / nanosPerMilli = seconds * 1000 := by
    rw [hnow, Nat.add_sub_cancel_left, nanosPerMilli]
    omega
  have hunits : min ((now - b.lastUpdate) / nanosPerMilli * b.ratePerSecond) (2 ^ 128 - 1) / 1000 =
      seconds * b.ratePerSecond := by
    rw [hms, Nat.mul_right_comm, min_eq_left (by omega), Nat.mul_div_cancel _ (by norm_num)]
  unfold updateTokens
  dsimp only
  rw [if_neg (by omega), hunits, U64.ofU128OrMax, if_pos hfit]

theorem available_setRate {rate now : Nat} {b' : TokenBucket} (h : b.setRate rate now = some b') :
    ∃ b₁, b.updateTokens now = some b₁ ∧ b'.ratePerSecond = rate ∧
      b'.available = b₁.available.map (min · rate) := by
  unfold setRate at h
  obtain ⟨b₁, h₁, h⟩ := Option.bind_eq_some_iff.mp h
  refine ⟨b₁, h₁, ?_⟩
  cases hav : b₁.available with
  | some left =>
      simp only [hav, upperBoundOfTokens, Option.pure_def, Option.some.injEq] at h
      subst h
      simp [available, upperBoundOfTokens]
      omega
  | none =>
      have hdebt : b₁.ratePerSecond < b₁.requested := by
        by_contra hle
        simp [available, upperBoundOfTokens, Nat.le_of_not_lt hle] at hav
      simp only [hav, Option.pure_def, Option.some.injEq] at h
      subst h
      simp [available, upperBoundOfTokens]
      omega

/-- A bucket of rate `r` refilled at 1 s lends 1 token and then the `r - 1` it
still holds, and at 2 s is refilled for the whole second since: it hands out
`2 r - 1` tokens at that instant, none of them delayed, more than the rate and
the one millisecond the instant spans allow. -/
theorem rateLimit_releases_beyond_rate (r : Nat) (hr : 3 ≤ r) (hr' : r < 2 ^ 32) :
    (new r 0).rateLimit 1 1000000000 = some (⟨1000000000, r, 1⟩, none) ∧
      (⟨1000000000, r, 1⟩ : TokenBucket).rateLimit (r - 1) 2000000000 = some (⟨1000000000, r, r⟩, none) ∧
      (⟨1000000000, r, r⟩ : TokenBucket).rateLimit r 2000000000 = some (⟨2000000000, r, r⟩, none) ∧
      r + (r + 999) / 1000 < (r - 1) + r := by
  have hfit : 1 * r < 2 ^ 64 := by omega
  refine ⟨?_, ?_, ?_, by omega⟩
  · -- the new bucket has handed out all its tokens: the call refills it
    rw [rateLimit_of_lt (by simp [new, available, upperBoundOfTokens]),
      updateTokens_seconds 1 (by simp [new]) (by simpa [new] using hfit)]
    simp [new, accountRequestedTokens, U64.saturatingAdd, calculateDelay, available, upperBoundOfTokens]
    omega
  · -- the `r - 1` tokens left cover the second call
    rw [rateLimit_of_le (by simp [available, upperBoundOfTokens, show 1 ≤ r by omega])]
    simp [accountRequestedTokens, U64.saturatingAdd, calculateDelay, available, upperBoundOfTokens]
    omega
  · -- none left: the refill counts the whole second since the update at 1 s
    rw [rateLimit_of_lt (by simp [available, upperBoundOfTokens]; omega),
      updateTokens_seconds 1 (by simp) (by simpa using hfit)]
    simp [accountRequestedTokens, U64.saturatingAdd, calculateDelay, available, upperBoundOfTokens]
    omega

/-- At ten tokens a second, as in the source's tests: 19 tokens at the instant 2 s. -/
theorem rateLimit_releases_beyond_rate_reference :
    (new 10 0).rateLimit 1 1000000000 = some (⟨1000000000, 10, 1⟩, none) ∧
      (⟨1000000000, 10, 1⟩ : TokenBucket).rateLimit 9 2000000000 = some (⟨1000000000, 10, 10⟩, none) ∧
      (⟨1000000000, 10, 10⟩ : TokenBucket).rateLimit 10 2000000000 = some (⟨2000000000, 10, 10⟩, none) ∧
      10 + (10 + 999) / 1000 < 9 + 10 :=
  rateLimit_releases_beyond_rate 10 (by norm_num) (by norm_num)

end TokenBucket

end Setheum.RateLimiter
