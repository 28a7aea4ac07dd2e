import AiGateway.Lib.Utf8
import AiGateway.Lib.Cuts
import AiGateway.Lib.Splits
import AiGateway.Lib.Strftime
import AiGateway.Lib.Urls
import AiGateway.Lib.UrlPaths
import AiGateway.Lib.Runs
import AiGateway.Lib.Switches
import AiGateway.Lib.Float64
import AiGateway.Lib.Windows
import AiGateway.Lib.Durations
import AiGateway.Lib.Entries
import AiGateway.Lib.Lru
import AiGateway.Lib.ReadyCache
import AiGateway.Lib.SwapCache
import AiGateway.Lib.Fragments
import AiGateway.Lib.Texts
import AiGateway.Lib.Subsequences
import AiGateway.Lib.Matches
import AiGateway.Lib.Sequences
import AiGateway.Lib.Polls
import AiGateway.Lib.Words
import AiGateway.Lib.Base64
import AiGateway.Lib.ByteSlices
import AiGateway.Lib.Histories
import AiGateway.Lib.Comparisons
import AiGateway.Lib.Lines
import AiGateway.Lib.EventStreams
import AiGateway.Lib.Futures
import AiGateway.Types
import AiGateway.Upstream
import AiGateway.KvCache
import AiGateway.CacheTee
import AiGateway.Config
import AiGateway.Discover
import AiGateway.HealthMonitor
import AiGateway.RateLimitMonitor
import AiGateway.Failover
import AiGateway.WeightedBalance
import AiGateway.CountedBody
import AiGateway.InFlightLimit
import AiGateway.WorkspaceConcurrency
import AiGateway.ClientIpLimit
import AiGateway.ClientIpLayer
import AiGateway.VirtualKeyStore
import AiGateway.ModelIds
import AiGateway.ModelPolicy
import AiGateway.MappingValidation
import AiGateway.MasterKeyCache
import AiGateway.ProviderReload
import AiGateway.WorkspaceAllowlist
import AiGateway.Json
import AiGateway.JsonSyntax
import AiGateway.Cooldown
import AiGateway.ModelSupport
import AiGateway.ContentFilter
import AiGateway.OpenAiChat
import AiGateway.ResponsesBridge
import AiGateway.ChatAssembly
import AiGateway.MapperProfiles
import AiGateway.AnthropicChat
import AiGateway.ChatRequests
import AiGateway.Conversations
import AiGateway.AnthropicRequests
import AiGateway.BedrockChat
import AiGateway.BedrockRequests
import AiGateway.DefaultModel
import AiGateway.Dispatch
import AiGateway.SemanticCache
import AiGateway.Security
import AiGateway.ChatRoles
import AiGateway.ModelRewrites
import AiGateway.CacheControl
import AiGateway.PromptTemplates
import AiGateway.Metrics
import AiGateway.LargeContext
import AiGateway.Retry
import AiGateway.ProfileResolver
import AiGateway.AppState
import AiGateway.PromptCompression
import AiGateway.ResolveIp
import AiGateway.SensitiveData
import AiGateway.DataUris
import AiGateway.RouterServices
import AiGateway.LazyBackends
import AiGateway.StreamedResponses
import AiGateway.RequestAdmission
import AiGateway.LargeContextDecisions
import AiGateway.UnifiedFutures
import AiGateway.Proofs.UpstreamConfinement
import AiGateway.Proofs.VersionedBases
import AiGateway.Proofs.CacheKeys
import AiGateway.Proofs.CacheCompleteness
import AiGateway.Proofs.CacheReplay
import AiGateway.Proofs.BucketSaves
import AiGateway.Proofs.BucketReads
import AiGateway.Proofs.HealthStream
import AiGateway.Proofs.Discovery
import AiGateway.Proofs.RateLimitEvents
import AiGateway.Proofs.Cooldowns
import AiGateway.Proofs.Restores
import AiGateway.Proofs.FailoverAgreement
import AiGateway.Proofs.RestoredServices
import AiGateway.Proofs.WeightedChoice
import AiGateway.Proofs.BalancerDispatch
import AiGateway.Proofs.InFlight
import AiGateway.Proofs.WorkspaceCounters
import AiGateway.Proofs.ClientIpAgreement
import AiGateway.Proofs.KeyCache
import AiGateway.Proofs.KeyPolls
import AiGateway.Proofs.KeyRevocation
import AiGateway.Proofs.ProviderNames
import AiGateway.Proofs.ModelNames
import AiGateway.Proofs.ModelClock
import AiGateway.Proofs.PrintedDates
import AiGateway.Proofs.PrintedVersions
import AiGateway.Proofs.SerializedModels
import AiGateway.Proofs.DispatchedProviders
import AiGateway.Proofs.ModelSpellings
import AiGateway.Proofs.QueryStrings
import AiGateway.Proofs.ValidatedMappings
import AiGateway.Proofs.DirectOffers
import AiGateway.Proofs.FallbackProviders
import AiGateway.Proofs.SupportedCandidates
import AiGateway.Proofs.FilteredBodies
import AiGateway.Proofs.MasterKeys
import AiGateway.Proofs.ProviderReloads
import AiGateway.Proofs.ProviderSnapshots
import AiGateway.Proofs.WorkspaceProviders
import AiGateway.Proofs.BridgeStream
import AiGateway.Proofs.BridgeReadings
import AiGateway.Proofs.BridgeResults
import AiGateway.Proofs.BridgeAgreement
import AiGateway.Proofs.AnthropicStreams
import AiGateway.Proofs.AnthropicUsage
import AiGateway.Proofs.AnthropicConversations
import AiGateway.Proofs.BedrockConversations
import AiGateway.Proofs.BedrockStreams
import AiGateway.Proofs.SemanticIsolation
import AiGateway.Proofs.SemanticFreshness
import AiGateway.Proofs.SecurityBodies
import AiGateway.Proofs.ClientIpWindow
import AiGateway.Proofs.LimitBackends
import AiGateway.Proofs.RollingWindows
import AiGateway.Proofs.TruncatedTexts
import AiGateway.Proofs.RenderedPrompts
import AiGateway.Proofs.ValidatedPrompts
import AiGateway.Proofs.PromptSchemas
import AiGateway.Proofs.RewrittenModels
import AiGateway.Proofs.CacheAges
import AiGateway.Proofs.RetriedAttempts
import AiGateway.Proofs.NormalizedRoles
import AiGateway.Proofs.LayeredProfiles
import AiGateway.Proofs.KeyGauges
import AiGateway.Proofs.CompressedPrompts
import AiGateway.Proofs.ForwardedAddresses
import AiGateway.Proofs.MaskedResponses
import AiGateway.Proofs.SpelledKeys
import AiGateway.Proofs.DetectedKeys
import AiGateway.Proofs.KeptImages
import AiGateway.Proofs.PinnedVersions
import AiGateway.Proofs.LatencyRoutes
import AiGateway.Proofs.RouterLookups
import AiGateway.Proofs.LazyConnections
import AiGateway.Proofs.BackoffGates
import AiGateway.Proofs.StreamedDelivery
import AiGateway.Proofs.LoggedStreams
import AiGateway.Proofs.MappedStreams
import AiGateway.Proofs.AdmittedRequests
import AiGateway.Proofs.TrueDecisions
import AiGateway.Proofs.UnifiedPolls
import AiGateway.Proofs.DefaultsAllowed
import AiGateway.MapperRequests
import AiGateway.Proofs.MappedRequests
