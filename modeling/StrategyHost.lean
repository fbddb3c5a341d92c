import StrategyHost.Audit.Tampering
import StrategyHost.Documents
import StrategyHost.Gateway.Site
import StrategyHost.Main
import StrategyHost.Proofs.Audit.Accounts
import StrategyHost.Proofs.Audit.Growing
import StrategyHost.Proofs.Audit.Persistence
import StrategyHost.Proofs.Audit.Queue
import StrategyHost.Proofs.Audit.Rearranged
import StrategyHost.Proofs.Audit.Tamper
import StrategyHost.Proofs.Audit.Uninterrupted
import StrategyHost.Proofs.Audit.Verdict
import StrategyHost.Proofs.Binding
import StrategyHost.Proofs.Budget
import StrategyHost.Proofs.Cache.Pending
import StrategyHost.Proofs.CacheKey
import StrategyHost.Proofs.Gateway.Attempts
import StrategyHost.Proofs.Gateway.Comeback
import StrategyHost.Proofs.Gateway.Confinement
import StrategyHost.Proofs.Gateway.Healing
import StrategyHost.Proofs.Gateway.Keeping
import StrategyHost.Proofs.Gateway.Outcomes
import StrategyHost.Proofs.Gateway.Parameters
import StrategyHost.Proofs.Gateway.Restore
import StrategyHost.Proofs.Invocation.Account
import StrategyHost.Proofs.Invocation.Retention
import StrategyHost.Proofs.Invocation.Warmup
import StrategyHost.Proofs.Rebinding
import StrategyHost.Proofs.Sanitizer.Leaving
import StrategyHost.Proofs.Sanitizer.Memo
import StrategyHost.Proofs.Sanitizer.Outcome
import StrategyHost.Proofs.TierMap
import StrategyHost.Proofs.Tracker
import StrategyHost.Proofs.Verdict
