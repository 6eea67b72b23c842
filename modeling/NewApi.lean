import NewApi.Table
import NewApi.Runs
import NewApi.Schema
import NewApi.SubscriptionReset
import NewApi.BillingOperation
import NewApi.TaskBilling
import NewApi.BillingLedger
import NewApi.BillingConservation
import NewApi.SubscriptionPeriods
import NewApi.Settlement
import NewApi.Wallet
import NewApi.MidjourneyReservation
import NewApi.Payments
import NewApi.WalletRange
import NewApi.ChannelRouting
import NewApi.ChannelSelect
import NewApi.ChannelStatus
import NewApi.AbilitySelect
import NewApi.RelayLoop
import NewApi.GroupBilling
import NewApi.HeaderOverride
import NewApi.HeaderIsolation
import NewApi.PaymentCredits
import NewApi.UserRows
import NewApi.AccountWallet
import NewApi.AccountRestrictions
import NewApi.TaskPolling
import NewApi.PollingAttribution
import NewApi.ClaudeUsage
import NewApi.ClaudeBilling
import NewApi.Interleaving
import NewApi.UserSessions
import NewApi.SessionFences
import NewApi.SessionRevocation
import NewApi.RefreshChain
import NewApi.AuthVersionFloor
import NewApi.Accounts
import NewApi.AccountEffects
import NewApi.IdentityOwnership
import NewApi.LoginIdentifiers
import NewApi.TwoFactor
import NewApi.OneTimeCodes
import NewApi.FactorLockout
import NewApi.Addresses
import NewApi.FetchPolicy
import NewApi.ProtectedFetch
import NewApi.FetchDestinations
import NewApi.DeniedDomains
import NewApi.TopUpOrders
import NewApi.TaskReplay
import NewApi.CivilTime
import NewApi.SubscriptionSchedule
import NewApi.ResetBoundaries
import NewApi.TokenStore
import NewApi.TokenEffects
import NewApi.TokenExhaustion
import NewApi.TokenEdits
import NewApi.TokenRotation
import NewApi.Attribution
import NewApi.MidjourneyPolling
import NewApi.MidjourneyMeters
import NewApi.MidjourneyLedger
import NewApi.ChatRequests
import NewApi.ChatToClaudeRequest
import NewApi.ClaudeToChatRequest
import NewApi.ResponsesToChatRequest
import NewApi.BillingSession
import NewApi.SubscriptionGroups
import NewApi.ClientHeaders
import NewApi.TieredTokens
import NewApi.ChatToGeminiStream
import NewApi.NegativeIndexes
import NewApi.PruneObjects
import NewApi.ExprCache
import NewApi.SessionAdmission
import NewApi.AbilityRows
import NewApi.KeyPolling
import NewApi.RealtimeUsage
import NewApi.RateLimiter
import NewApi.ChannelAffinity
import NewApi.AffinityKeys
import NewApi.RoleHierarchy
