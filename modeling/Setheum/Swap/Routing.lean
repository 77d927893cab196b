import Setheum.Swap.Quotes
import Setheum.Lib.RunningBest

/-!
# The best swap path

`get_best_price_swap_path` quotes the direct path and then a path through
each non-empty joint, and keeps a quote in place of the best so far unless it
supplies more or receives less. Under `ExactSupply` every quote supplies the
exact amount and under `ExactTarget` every quote receives the exact amount,
so any two quotes are comparable and the loop is an instance of
`RunningBest`: the path it keeps is optimal among all candidates.
-/

namespace Setheum.Swap

variable {AccountId L : Type} (T : Config AccountId L)

/-- The path through a non-empty joint: the supply currency put before it and
the target after it, unless the joint already starts or ends with them. -/
def jointSwapPath (supplyCurrencyId targetCurrencyId : CurrencyId) (pathJoint : List CurrencyId) :
    List CurrencyId :=
  (if supplyCurrencyId ≠ pathJoint.headD default then [supplyCurrencyId] else []) ++ pathJoint ++
    (if targetCurrencyId ≠ pathJoint.getLastD default then [targetCurrencyId] else [])

example : jointSwapPath (.token .SEU) (.token .SEUSD) [.token .SEU, .dexShare (.token .SEU) (.token .SEUSD)] =
    [.token .SEU, .dexShare (.token .SEU) (.token .SEUSD), .token .SEUSD] := by decide

/-- One round of the loop of `get_best_price_swap_path` over the joints. -/
def bestPriceStep (s : State AccountId L) (supplyCurrencyId targetCurrencyId : CurrencyId) (limit : SwapLimit)
    (maybeBest : Option (List CurrencyId × Nat × Nat)) (pathJoint : List CurrencyId) :
    Option (List CurrencyId × Nat × Nat) :=
  if pathJoint.isEmpty then maybeBest
  else
    let swapPath := jointSwapPath supplyCurrencyId targetCurrencyId pathJoint
    match getSwapAmount T s swapPath limit with
    | some (supplyAmount, targetAmount) =>
        match maybeBest with
        | some (_, previousSupply, previousTarget) =>
            if supplyAmount > previousSupply ∨ targetAmount < previousTarget then maybeBest
            else some (swapPath, supplyAmount, targetAmount)
        | none => some (swapPath, supplyAmount, targetAmount)
    | none => maybeBest

/-- `get_best_price_swap_path`. -/
def getBestPriceSwapPath (s : State AccountId L) (supplyCurrencyId targetCurrencyId : CurrencyId)
    (limit : SwapLimit) (alternativePathJointList : List (List CurrencyId)) :
    Option (List CurrencyId × Nat × Nat) :=
  let defaultSwapPath := [supplyCurrencyId, targetCurrencyId]
  let maybeBest := (getSwapAmount T s defaultSwapPath limit).map fun (supplyAmount, targetAmount) =>
    (defaultSwapPath, supplyAmount, targetAmount)
  alternativePathJointList.foldl (bestPriceStep T s supplyCurrencyId targetCurrencyId limit) maybeBest

/-- The paths `get_best_price_swap_path` quotes: the direct one, then one
through each non-empty joint. -/
def candidateSwapPaths (supplyCurrencyId targetCurrencyId : CurrencyId)
    (alternativePathJointList : List (List CurrencyId)) : List (List CurrencyId) :=
  [supplyCurrencyId, targetCurrencyId] ::
    (alternativePathJointList.filter fun pathJoint => !pathJoint.isEmpty).map
      (jointSwapPath supplyCurrencyId targetCurrencyId)

@[simp] theorem mem_candidateSwapPaths {supplyCurrencyId targetCurrencyId : CurrencyId}
    {alternativePathJointList : List (List CurrencyId)} {path : List CurrencyId} :
    path ∈ candidateSwapPaths supplyCurrencyId targetCurrencyId alternativePathJointList ↔
      path = [supplyCurrencyId, targetCurrencyId] ∨
        ∃ pathJoint ∈ alternativePathJointList, pathJoint ≠ [] ∧
          jointSwapPath supplyCurrencyId targetCurrencyId pathJoint = path := by
  simp [candidateSwapPaths, and_assoc]

/-- The comparison of the loop: a quote is kept over the best so far unless it
supplies more or receives less. -/
def atLeastAsGood (quote best : Nat × Nat) : Bool := !(decide (quote.1 > best.1) || decide (quote.2 < best.2))

@[simp] theorem atLeastAsGood_iff {quote best : Nat × Nat} :
    atLeastAsGood quote best = true ↔ quote.1 ≤ best.1 ∧ best.2 ≤ quote.2 := by
  simp [atLeastAsGood]

/-! ## The loop as a running best -/

variable {T}

theorem bestPriceStep_eq (s : State AccountId L) (supplyCurrencyId targetCurrencyId : CurrencyId)
    (limit : SwapLimit) (maybeBest : Option (List CurrencyId × Nat × Nat)) (pathJoint : List CurrencyId) :
    bestPriceStep T s supplyCurrencyId targetCurrencyId limit maybeBest pathJoint =
      if pathJoint.isEmpty then maybeBest
      else RunningBest.step (fun path => getSwapAmount T s path limit) atLeastAsGood maybeBest
        (jointSwapPath supplyCurrencyId targetCurrencyId pathJoint) := by
  unfold bestPriceStep RunningBest.step
  split_ifs with hj
  · rfl
  · dsimp only
    cases getSwapAmount T s (jointSwapPath supplyCurrencyId targetCurrencyId pathJoint) limit with
    | none => rfl
    | some quote =>
        rcases maybeBest with _ | ⟨path, previousSupply, previousTarget⟩
        · rfl
        · -- the skip condition is the negation of `atLeastAsGood`
          by_cases hskip : quote.1 > previousSupply ∨ quote.2 < previousTarget
          · have hworse : ¬atLeastAsGood quote (previousSupply, previousTarget) = true := by
              rw [atLeastAsGood_iff]
              omega
            simp [hskip, hworse]
          · have hgood : atLeastAsGood quote (previousSupply, previousTarget) = true := by
              rw [atLeastAsGood_iff]
              omega
            simp [hskip, hgood]

theorem getBestPriceSwapPath_eq (s : State AccountId L) (supplyCurrencyId targetCurrencyId : CurrencyId)
    (limit : SwapLimit) (alternativePathJointList : List (List CurrencyId)) :
    getBestPriceSwapPath T s supplyCurrencyId targetCurrencyId limit alternativePathJointList =
      (candidateSwapPaths supplyCurrencyId targetCurrencyId alternativePathJointList).foldl
        (RunningBest.step (fun path => getSwapAmount T s path limit) atLeastAsGood) none := by
  have hinit : RunningBest.step (fun path => getSwapAmount T s path limit) atLeastAsGood none
      [supplyCurrencyId, targetCurrencyId] =
      (getSwapAmount T s [supplyCurrencyId, targetCurrencyId] limit).map fun (supplyAmount, targetAmount) =>
        ([supplyCurrencyId, targetCurrencyId], supplyAmount, targetAmount) := by
    unfold RunningBest.step
    dsimp only
    cases getSwapAmount T s [supplyCurrencyId, targetCurrencyId] limit <;> rfl
  unfold getBestPriceSwapPath candidateSwapPaths
  dsimp only
  rw [List.foldl_cons, hinit, List.foldl_map, List.foldl_filter]
  congr 1
  funext maybeBest pathJoint
  rw [bestPriceStep_eq]
  cases pathJoint.isEmpty <;> rfl

theorem getSwapAmount_exactSupply {s : State AccountId L} {path : List CurrencyId}
    {exactSupplyAmount minimumTargetAmount : Nat} {quote : Nat × Nat}
    (h : getSwapAmount T s path (.exactSupply exactSupplyAmount minimumTargetAmount) = some quote) :
    quote.1 = exactSupplyAmount := by
  obtain ⟨amounts, -, h⟩ := Option.bind_eq_some_iff.mp h
  split_ifs at h
  cases h
  rfl

theorem getSwapAmount_exactTarget {s : State AccountId L} {path : List CurrencyId}
    {maximumSupplyAmount exactTargetAmount : Nat} {quote : Nat × Nat}
    (h : getSwapAmount T s path (.exactTarget maximumSupplyAmount exactTargetAmount) = some quote) :
    quote.2 = exactTargetAmount := by
  obtain ⟨amounts, -, h⟩ := Option.bind_eq_some_iff.mp h
  split_ifs at h
  cases h
  rfl

theorem atLeastAsGood_trans (u v w : Nat × Nat) :
    atLeastAsGood u v = true → atLeastAsGood v w = true → atLeastAsGood u w = true := by
  simp only [atLeastAsGood_iff]
  omega

theorem atLeastAsGood_total (s : State AccountId L) (limit : SwapLimit) (path path' : List CurrencyId)
    (quote quote' : Nat × Nat) (h : getSwapAmount T s path limit = some quote)
    (h' : getSwapAmount T s path' limit = some quote') :
    atLeastAsGood quote quote' = true ∨ atLeastAsGood quote' quote = true := by
  simp only [atLeastAsGood_iff]
  cases limit with
  | exactSupply exactSupplyAmount minimumTargetAmount =>
      have e := getSwapAmount_exactSupply h
      have e' := getSwapAmount_exactSupply h'
      omega
  | exactTarget maximumSupplyAmount exactTargetAmount =>
      have e := getSwapAmount_exactTarget h
      have e' := getSwapAmount_exactTarget h'
      omega

/-- `get_best_price_swap_path` keeps a candidate's own quote, and no
candidate, the direct path or one through a non-empty joint, supplies less or
receives more; it keeps nothing only when no candidate has a quote. -/
theorem getBestPriceSwapPath_optimal (s : State AccountId L) (supplyCurrencyId targetCurrencyId : CurrencyId)
    (limit : SwapLimit) (alternativePathJointList : List (List CurrencyId)) :
    (∀ path supplyAmount targetAmount,
      getBestPriceSwapPath T s supplyCurrencyId targetCurrencyId limit alternativePathJointList =
        some (path, supplyAmount, targetAmount) →
      getSwapAmount T s path limit = some (supplyAmount, targetAmount) ∧
        path ∈ candidateSwapPaths supplyCurrencyId targetCurrencyId alternativePathJointList ∧
        ∀ path' ∈ candidateSwapPaths supplyCurrencyId targetCurrencyId alternativePathJointList,
          ∀ supplyAmount' targetAmount', getSwapAmount T s path' limit = some (supplyAmount', targetAmount') →
            ¬(supplyAmount' < supplyAmount ∨ targetAmount' > targetAmount)) ∧
    (getBestPriceSwapPath T s supplyCurrencyId targetCurrencyId limit alternativePathJointList = none →
      ∀ path' ∈ candidateSwapPaths supplyCurrencyId targetCurrencyId alternativePathJointList,
        getSwapAmount T s path' limit = none) := by
  rw [getBestPriceSwapPath_eq]
  refine ⟨fun path supplyAmount targetAmount h => ?_, RunningBest.foldl_step_eq_none atLeastAsGood_trans
    (atLeastAsGood_total s limit)⟩
  obtain ⟨hmem, hquote, hbest⟩ :=
    RunningBest.foldl_step_eq_some atLeastAsGood_trans (atLeastAsGood_total s limit) h
  refine ⟨hquote, hmem, fun path' hpath' supplyAmount' targetAmount' h' => ?_⟩
  have := (atLeastAsGood_iff).mp (hbest path' hpath' _ h')
  dsimp only at this
  omega

/-- From the pool of 1000 of each token, the direct path is the best for 100
SEU, quoted 90 SEUSD, and no candidate through SEU and SEUSD again does
better. -/
theorem bestPriceSwapPath_pooled :
    getBestPriceSwapPath Reference.testConfig Reference.pooled (.token .SEU) (.token .SEUSD)
        (.exactSupply 100 0) [[.token .SEUSD, .token .SEU]] = some (Reference.seuPath, 100, 90) ∧
      ∀ path' ∈ candidateSwapPaths (.token .SEU) (.token .SEUSD) [[.token .SEUSD, .token .SEU]],
        ∀ supplyAmount' targetAmount',
          getSwapAmount Reference.testConfig Reference.pooled path' (.exactSupply 100 0) =
            some (supplyAmount', targetAmount') → ¬(supplyAmount' < 100 ∨ targetAmount' > 90) := by
  have hbest : getBestPriceSwapPath Reference.testConfig Reference.pooled (.token .SEU) (.token .SEUSD)
      (.exactSupply 100 0) [[.token .SEUSD, .token .SEU]] = some (Reference.seuPath, 100, 90) := by decide
  exact ⟨hbest, ((getBestPriceSwapPath_optimal (T := Reference.testConfig) Reference.pooled _ _ _ _).1 _ _ _ hbest).2.2⟩

end Setheum.Swap
