import XCron.Platform.Bytes
import XCron.Platform.Codec
import XCron.Platform.Sha256
import XCron.Platform.Outcome
import XCron.Platform.Cells
import XCron.Platform.Trace
import XCron.Common.Types
import XCron.Platform.Call
import XCron.Scheduler.Storage
import XCron.Scheduler.CloneKeys
import XCron.Scheduler.Scheduling
import XCron.Scheduler.Execution
import XCron.Scheduler.Intents
import XCron.Scheduler.Config
import XCron.Scheduler.Specs
import XCron.Scheduler.TaskView
import XCron.Scheduler.Lifecycle
import XCron.Scheduler.Solvency
import XCron.Scheduler.Payouts
import XCron.Scheduler.Soundness
import XCron.Scheduler.Compressed
import XCron.Scheduler.Lockout
import XCron.Scheduler.Rescue
import XCron.Vault.Contract
import XCron.Vault.Effects
import XCron.Vault.Credit
import XCron.Keeper.Pcit
import XCron.Scheduler.Exchange
import XCron.Scheduler.Backing
import XCron.Vault.Totals
import XCron.Registry.Contract
import XCron.Registry.Effects
import XCron.Registry.Solvency
import XCron.Registry.Reserve
import XCron.Registry.Records
import XCron.Registry.Cooldown
import XCron.Xsc.Core
import XCron.Xsc.Soundness
import XCron.Xsc.Offchain
import XCron.Scheduler.Gates
import XCron.Vault.Spending
import XCron.Scheduler.Whitelists
import XCron.Scheduler.Sovereign
import XCron.Scheduler.Window
import XCron.ZkVerifier.Contract
import XCron.ZkVerifier.Settlement
import XCron.Scheduler.Ownership
import XCron.Scheduler.RateLimits
import XCron.Scheduler.Budgets
import XCron.Scheduler.Screening
import XCron.Rewards.Contract
import XCron.Rewards.Flush
import XCron.Rewards.Accounting
import XCron.Platform.Median
import XCron.Platform.UnorderedSet
import XCron.Xwap.Contract
import XCron.Xwap.Safety
import XCron.Xwap.Ewma
import XCron.Shield.Contract
import XCron.Shield.Limits
import XCron.Shield.Freeze
import XCron.Agents.Identity
import XCron.Agents.Ownership
import XCron.Agents.Validation
import XCron.Agents.Verification
import XCron.Agents.KeyRotation
import XCron.Agents.Reputation
import XCron.Agents.Feedback
import XCron.Agents.Custody
import XCron.Platform.Readers
import XCron.Common.Decoding
import XCron.Platform.Hex
import XCron.Platform.Arguments
import XCron.Platform.Base64
import XCron.Keeper.Transaction
import XCron.Platform.JavaScript
import XCron.Sdk.Client
import XCron.Xse.Secrets
import XCron.Registry.Strikes
import XCron.HftVault.Contract
import XCron.HftVault.Inventory
import XCron.Keeper.DripFunder
import XCron.Keeper.Quota
import XCron.Keeper.Sessions
import XCron.Keeper.FloatLimits
import XCron.Platform.Ring
import XCron.Xwap.Trend
import XCron.Xwap.Alpha
import XCron.Agents.MeanRating
import XCron.Agents.JobPayments
import XCron.Platform.Numerals
import XCron.ZkVerifier.Binding
import XCron.Platform.Utf8
import XCron.Keeper.LeafEncoding
import XCron.Keeper.RetryQueue
import XCron.Platform.Decimal
import XCron.Xse.Intents
import XCron.Xse.Execution
import XCron.Xse.Caps
import XCron.Scheduler.DispatchArithmetic
import XCron.Keeper.Signing
import XCron.Platform.JsonObject
import XCron.Xwap.Median
import XCron.Scheduler.Verdicts
import XCron.Registry.Reports
import XCron.Scheduler.Queries
import XCron.Protocol.Answers
import XCron.Platform.RollingSet
import XCron.Keeper.Snipers
import XCron.Keeper.Swarm
import XCron.Platform.Components
import XCron.Agents.Provenance
import XCron.Frontend.Scheduling
import XCron.Frontend.SchedulePage
import XCron.Platform.Quorum
import XCron.Keeper.Nonces
import XCron.Frontend.CloneKeys
import XCron.Platform.Buffers
import XCron.Frontend.TaskList
import XCron.Platform.Bech32
import XCron.Keeper.Arbitrage
import XCron.Frontend.KeeperPanel
import XCron.Platform.JsonText
import XCron.Xse.Receipts
