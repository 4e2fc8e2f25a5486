import GShare.Soundness.AuditRetention
import GShare.Soundness.AuditTampering
import GShare.Soundness.Books
import GShare.Soundness.BorrowGuard
import GShare.Soundness.BudgetCap
import GShare.Soundness.CardPin
import GShare.Soundness.Checkpoints
import GShare.Soundness.ClaimGrowth
import GShare.Soundness.ClientKeys
import GShare.Soundness.ClusterChoice
import GShare.Soundness.CordonMirror
import GShare.Soundness.CpuFit
import GShare.Soundness.Decisions
import GShare.Soundness.Demotion
import GShare.Soundness.DoubleRelease
import GShare.Soundness.Drain
import GShare.Soundness.FrozenAccounts
import GShare.Soundness.GrantIncrease
import GShare.Soundness.Grants
import GShare.Soundness.Holdings
import GShare.Soundness.IdempotencyKey
import GShare.Soundness.LastMinute
import GShare.Soundness.Leak
import GShare.Soundness.Liveness
import GShare.Soundness.LockOrder
import GShare.Soundness.NodePools
import GShare.Soundness.NodeRemoval
import GShare.Soundness.PausedTime
import GShare.Soundness.PodGuard
import GShare.Soundness.Policies
import GShare.Soundness.PoolChange
import GShare.Soundness.PoolRevocation
import GShare.Soundness.Preemption
import GShare.Soundness.Promotion
import GShare.Soundness.QueueOrder
import GShare.Soundness.Queueable
import GShare.Soundness.RamPressure
import GShare.Soundness.Ranks
import GShare.Soundness.Reaper
import GShare.Soundness.Reclaim
import GShare.Soundness.Refill
import GShare.Soundness.SessionAccess
import GShare.Soundness.Settled
import GShare.Soundness.Settlement
import GShare.Soundness.SingleUse
import GShare.Soundness.Slices
import GShare.Soundness.StaleReport
import GShare.Soundness.TargetChoice
import GShare.Soundness.TenantIsolation
import GShare.Soundness.Terminal
import GShare.Soundness.VolumeHome
import GShare.Soundness.VolumeOwners
