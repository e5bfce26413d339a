import BrainMate.Gateway.RotationOnce
import BrainMate.Gateway.SessionRevocation
import BrainMate.Gateway.RotationSuccessor
import BrainMate.Gateway.ReplayCascade
import BrainMate.Gateway.RotationLock
import BrainMate.Gateway.TokenMachine
import BrainMate.Gateway.TokenFamily
import BrainMate.Gateway.RefreshRevocation
import BrainMate.Gateway.BlacklistDurability
import BrainMate.Gateway.LogoutWindow
import BrainMate.Gateway.SessionOwnership
import BrainMate.Gateway.SessionLimitDb
import BrainMate.Gateway.SessionLimitRedis
import BrainMate.Gateway.SessionMachine
import BrainMate.Gateway.LogoutSafety
import BrainMate.Reconciliation.Custody
import BrainMate.Reconciliation.Claiming
import BrainMate.Reconciliation.Stages
import BrainMate.Reconciliation.Idempotency
import BrainMate.Reconciliation.Uniqueness
import BrainMate.Nextjs.SessionVersions
import BrainMate.Interleaving.Exceptions
import BrainMate.WriteRight.SingleDispatch
import BrainMate.WriteRight.JobCustody
import BrainMate.WriteRight.TerminalStatus
import BrainMate.WriteRight.Results
import BrainMate.WriteRight.VisibleResult
import BrainMate.Interleaving.Progress
import BrainMate.WriteRight.StoreAgreement
import BrainMate.Reconciliation.Deduplication
import BrainMate.Gateway.Gmail
import BrainMate.WriteRight.Erasure
import BrainMate.WriteRight.CacheKey
import BrainMate.WriteRight.AcceptedJob
import BrainMate.WriteRight.MonthlyQuota
import BrainMate.WriteRight.CompleteRoute
import BrainMate.WriteRight.CompletionClients
import BrainMate.WriteRight.PostedResult
import BrainMate.WriteRight.PersistPhases
import BrainMate.WriteRight.PersistedOnce
import BrainMate.Gateway.RateLimiter
import BrainMate.Gateway.InMemoryRedis
import BrainMate.Gateway.OtpStore
import BrainMate.Gateway.GmailRefresh
import BrainMate.Gateway.StoreFrames
import BrainMate.Gateway.NonceReplay
import BrainMate.Gateway.AuditTrail
import BrainMate.WriteRight.QuotaCounters
import BrainMate.WriteRight.RetriedJob
import BrainMate.Gateway.BucketExpiry
import BrainMate.Gateway.RefreshFailures
import BrainMate.Gateway.SessionCreation
import BrainMate.Gateway.ExpiryLimits
import BrainMate.Gateway.RemoteIp
import BrainMate.Gateway.StateToken
import BrainMate.Gateway.GmailMessage
import BrainMate.Gateway.CalendarIcs
import BrainMate.WriteRight.ParserTotality
import BrainMate.WriteRight.PromptFiltering
import BrainMate.WriteRight.ChatHistory
import BrainMate.WriteRight.RefineCache
import BrainMate.WriteRight.ChatSearch
import BrainMate.WriteRight.EmailChainCuts
import BrainMate.WriteRight.TokenStream
import BrainMate.WriteRight.GrammarOverlay
import BrainMate.WriteRight.HashedText
import BrainMate.WriteRight.SuggestionChips
import BrainMate.WriteRight.StreakFallback
import BrainMate.WriteRight.WritingSessions
import BrainMate.WriteRight.GlobalPercentile
import BrainMate.WriteRight.ShareToken
import BrainMate.WriteRight.RateWindow
import BrainMate.Nextjs.SecretRotation
import BrainMate.WriteRight.WeeklyBuckets
import BrainMate.WriteRight.AnthropicMessages
import BrainMate.Gateway.RedisUrl
import BrainMate.Gateway.RiskContexts
import BrainMate.WriteRight.WritingCoach
import BrainMate.WriteRight.WordDiff
import BrainMate.WriteRight.JobDelivery
import BrainMate.WriteRight.WorkspaceIsolation
import BrainMate.WriteRight.WorkspaceDeletion
import BrainMate.Gateway.KeyRotation
import BrainMate.WriteRight.ModelRouting
import BrainMate.WriteRight.RoutedAnswer
