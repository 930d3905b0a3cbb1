import WechatBot.Runs
import WechatBot.Records
import WechatBot.Policy
import WechatBot.Results
import WechatBot.OutboxService
import WechatBot.SubmissionBatch
import WechatBot.Dispatcher
import WechatBot.PluginAcceptance
import WechatBot.PluginContainment
import WechatBot.Sender
import WechatBot.SenderEffects
import WechatBot.SenderSystem
import WechatBot.SenderSteps
import WechatBot.AtMostOnce
import WechatBot.AccountSerial
import WechatBot.SendFence
import WechatBot.RowLocks
import WechatBot.SendDeadlock
import WechatBot.Delivery
import WechatBot.DirtyWrite
import WechatBot.Accounts
import WechatBot.AccountDisable
import WechatBot.PluginScope
import WechatBot.PluginCatalog
import WechatBot.PluginSystem
import WechatBot.PluginSteps
import WechatBot.PluginStanding
import WechatBot.PluginAgreement
import WechatBot.CommandRoutes
import WechatBot.CommandRouting
import WechatBot.InboxWorker
import WechatBot.InboxTerminal
import WechatBot.DispatchAttempts
import WechatBot.ExactlyOnce
import WechatBot.Discovery
import WechatBot.DiscoveryFacts
import WechatBot.DiscoverySteps
import WechatBot.DiscoverySerial
import WechatBot.DiscoveryRace
import WechatBot.FirstDiscovery
import WechatBot.UuidText
import WechatBot.MembershipEpochs
import WechatBot.EpochFence
import WechatBot.Precedence
import WechatBot.PolicyMonotone
import WechatBot.LockedRules
import WechatBot.PolicyChanges
import WechatBot.ShownPermissions
import WechatBot.EventTransaction
import WechatBot.AuthorizationAgreement
import WechatBot.JsonText
import WechatBot.PersistedJson
import WechatBot.PrivateReasoning
import WechatBot.Transactions
import WechatBot.TaskAgent
import WechatBot.TaskAgentCalls
import WechatBot.EventPayloads
import WechatBot.TaskAgentRejections
import WechatBot.TaskAgentSteps
import WechatBot.RunQuestions
import WechatBot.AgentLog
import WechatBot.RunIdempotency
import WechatBot.OutboxStamps
import WechatBot.Provenance
import WechatBot.SentContent
import WechatBot.MessageLifetime
import WechatBot.Paging
import WechatBot.ConsoleListings
import WechatBot.ConsolePages
import WechatBot.SenderClock
import WechatBot.SenderPacing
import WechatBot.RateLimit
import WechatBot.Spacing
import WechatBot.ClaimOwnership
import WechatBot.AttemptCount
import WechatBot.UniqueRows
import WechatBot.PrefixCodes
import WechatBot.Timestamps
import WechatBot.ActionText
import WechatBot.EnqueueSessions
import WechatBot.GeweNormalizer
import WechatBot.WebhookIngest
import WechatBot.SelfEvents
import WechatBot.WebhookDedup
import WechatBot.GroupSenders
import WechatBot.WebhookVersions
import WechatBot.ScopeDocuments
import WechatBot.CommandWords
import WechatBot.GeweClient
import WechatBot.JsonPaths
import WechatBot.JsonReader
import WechatBot.PluginFraming
import WechatBot.SerialServer
import WechatBot.PluginPipes
import WechatBot.ReadCommitted
import WechatBot.Promises
import WechatBot.UniqueTables
import WechatBot.AuthModels
import WechatBot.AdminRbac
import WechatBot.OwnerSafety
import WechatBot.AdminPrivileges
import WechatBot.RightsChanges
import WechatBot.AuthService
import WechatBot.SessionEffects
import WechatBot.SessionValidity
import WechatBot.PluginPackages
import WechatBot.PackageDigests
import WechatBot.PluginRestore
import WechatBot.RevisionConfigs
import WechatBot.SensitiveFields
import WechatBot.ListEdits
import WechatBot.JsonSchema
import WechatBot.SchemaCoverage
import WechatBot.LoginThrottling
import WechatBot.ClaimPicks
import WechatBot.Dictionaries
import WechatBot.PluginSupervisor
import WechatBot.SupervisorSteps
import WechatBot.SupervisorTables
import WechatBot.SupervisorEpochs
import WechatBot.SupervisorDrain
import WechatBot.PluginOrphans
