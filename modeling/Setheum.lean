import Setheum.Lib.System
import Setheum.Lib.FinSum
import Setheum.Lib.ConstantProduct
import Setheum.Lib.Result
import Setheum.Lib.OrderStatistic
import Setheum.Lib.Encoding
import Setheum.Lib.PartialBijection
import Setheum.Lib.Quorum
import Setheum.Lib.RunningBest
import Setheum.Lib.Proportion
import Setheum.Lib.FiniteMap
import Setheum.Lib.CyclicWindow
import Setheum.Lib.Alignment
import Setheum.Lib.Simulation
import Setheum.Lib.BoundedVec
import Setheum.Lib.Backing
import Setheum.Lib.SortedList
import Setheum.Primitives.Currency
import Setheum.Primitives.Arithmetic
import Setheum.Primitives.Evm
import Setheum.Swap.State
import Setheum.Swap.Pricing
import Setheum.Swap.Calls
import Setheum.Swap.Inversion
import Setheum.Swap.Obligation
import Setheum.Swap.Bookkeeping
import Setheum.Swap.Reference
import Setheum.Swap.Solvency
import Setheum.Swap.Provisioning
import Setheum.Swap.Quotes
import Setheum.Swap.Routing
import Setheum.Swap.Liquidity
import Setheum.Tokens.Pallet
import Setheum.Tokens.Reference
import Setheum.Tokens.Dust
import Setheum.Tokens.Locks
import Setheum.Tokens.Reducible
import Setheum.Tokens.Issuance
import Setheum.Tokens.Named
import Setheum.Tokens.Runs
import Setheum.Tokens.LockLists
import Setheum.Rewards.Pallet
import Setheum.Rewards.Accounting
import Setheum.Rewards.Totals
import Setheum.Rewards.Fairness
import Setheum.Incentives.Pallet
import Setheum.Aggregator.BlockSignatureAggregator
import Setheum.RateLimit.Pallet
import Setheum.RateLimit.Quota
import Setheum.Cdp.Risk
import Setheum.Cdp.Loans
import Setheum.Cdp.Engine
import Setheum.Cdp.Ecdp
import Setheum.Cdp.Reference
import Setheum.CommitteeManagement.Rotation
import Setheum.RateLimiter.TokenBucket
import Setheum.Finality.Chain
import Setheum.Finality.Proposal
import Setheum.Finality.DataProvider
import Setheum.Finality.StatusProvider
import Setheum.Allocator.Bump
import Setheum.Storage.Vec
import Setheum.Bonding.Ledger
import Setheum.Bonding.Controller
import Setheum.Prices.Pallet
import Setheum.Treasury.Pallet
import Setheum.Vesting.Pallet
import Setheum.Vesting.Reference
import Setheum.Vesting.Validity
import Setheum.DexOracle.Pallet
import Setheum.DexOracle.Average
import Setheum.DexOracle.Runs
import Setheum.TransactionPayment.Pallet
import Setheum.TransactionPayment.Refund
import Setheum.Balances.Free
import Setheum.TransactionPayment.ChargePool
import Setheum.Oracle.Pallet
import Setheum.Oracle.Median
import Setheum.Oracle.Runs
import Setheum.Bridge.Pallet
import Setheum.Bridge.Signing
import Setheum.Bridge.Execution
import Setheum.Bridge.Reference
import Setheum.Bridge.Deposit
import Setheum.UnifiedAccounts.Pallet
import Setheum.UnifiedAccounts.Mapping
import Setheum.SetBft.Units
import Setheum.SetBft.Store
import Setheum.SetBft.StoreIndex
import Setheum.SetBft.Reconstruction
import Setheum.SetBft.Validation
import Setheum.SetBft.ForkDetection
import Setheum.SetBft.Extension
import Setheum.SetBft.Creation
import Setheum.SetBft.Alerts
import Setheum.SetBft.AlertRuns
import Setheum.SetBft.Rmc
import Setheum.Finality.Multisignature
