import Orchestra.Foundation.Delivery
import Orchestra.Foundation.Dictionary
import Orchestra.Foundation.EdgeList
import Orchestra.Foundation.Handler
import Orchestra.Foundation.KeyedTable
import Orchestra.Foundation.LayeredFold
import Orchestra.Foundation.Lockstep
import Orchestra.Foundation.Overtaking
import Orchestra.Foundation.Pointer
import Orchestra.Foundation.Polling
import Orchestra.Foundation.Pool
import Orchestra.Foundation.Program
import Orchestra.Foundation.Protocol
import Orchestra.Foundation.TopologicalOrder
import Orchestra.Foundation.Transition
import Orchestra.Foundation.Wildcard
import Orchestra.Foundation.Worklist
import Orchestra.Core.Exceptions
import Orchestra.Core.Float
import Orchestra.Core.Hashing
import Orchestra.Core.Json
import Orchestra.Core.JsonOrder
import Orchestra.Core.Schema
import Orchestra.Core.SignatureText
import Orchestra.Core.Text
import Orchestra.Core.Time
import Orchestra.Coordinator.ApprovalGate
import Orchestra.Coordinator.ApprovalProgress
import Orchestra.Coordinator.ApprovalRace
import Orchestra.Coordinator.ApprovalStore
import Orchestra.Coordinator.Engine
import Orchestra.Coordinator.EngineClosing
import Orchestra.Coordinator.EngineEgress
import Orchestra.Coordinator.EngineNode
import Orchestra.Coordinator.EngineNoninterference
import Orchestra.Coordinator.EngineRecords
import Orchestra.Coordinator.EngineRun
import Orchestra.Coordinator.EngineStates
import Orchestra.Coordinator.EngineSteps
import Orchestra.Coordinator.EngineSync
import Orchestra.Coordinator.EngineWorld
import Orchestra.Coordinator.EventLog
import Orchestra.Coordinator.EventNumbering
import Orchestra.Coordinator.ExecutionOrder
import Orchestra.Coordinator.GateAgreement
import Orchestra.Coordinator.GateInvariants
import Orchestra.Coordinator.GateSoundness
import Orchestra.Coordinator.GateWakeup
import Orchestra.Coordinator.LifecycleStore
import Orchestra.Coordinator.LiveMirror
import Orchestra.Coordinator.Merge
import Orchestra.Coordinator.NodeGrant
import Orchestra.Coordinator.ReadCommitted
import Orchestra.Coordinator.RunStore
import Orchestra.Coordinator.Session
import Orchestra.Coordinator.SharedConnection
import Orchestra.Coordinator.SoleUse
import Orchestra.Coordinator.Tables
import Orchestra.Enterprise.BreakGlass
import Orchestra.Enterprise.BreakGlassControl
import Orchestra.Enterprise.BreakGlassLifetime
import Orchestra.Enterprise.DeletionIsolation
import Orchestra.Enterprise.DeletionRace
import Orchestra.Enterprise.DeletionReach
import Orchestra.Enterprise.DeletionReport
import Orchestra.Enterprise.DeletionRetry
import Orchestra.Enterprise.DeletionSteps
import Orchestra.Enterprise.Isolation
import Orchestra.Enterprise.LegalHold
import Orchestra.Enterprise.Lifecycle
import Orchestra.Publishing.Card
import Orchestra.Publishing.CardLifecycle
import Orchestra.Publishing.CurrentVersion
import Orchestra.Publishing.Ingress
import Orchestra.Publishing.KillSwitch
import Orchestra.Publishing.PartnerIndex
import Orchestra.Publishing.Registry
import Orchestra.Publishing.ReleaseGate
import Orchestra.Publishing.Withdrawal
import Orchestra.Registry.Policy
import Orchestra.Registry.Router
import Orchestra.Evidence.Merkle
import Orchestra.Evidence.MerkleBinding
import Orchestra.Evidence.Receipt
import Orchestra.Runtime.CredentialBroker
import Orchestra.Runtime.Fencing
import Orchestra.Runtime.Outbox
import Orchestra.Runtime.RateLimit
import Orchestra.Observability.RequestCount
import Orchestra.Observability.RequestIdentifier
import Orchestra.Observability.RequestSizeLimit
import Orchestra.Runtime.StateMachine
import Orchestra.Runtime.TransitionGuard
import Orchestra.Sdk.Client
import Orchestra.Sdk.Errors
import Orchestra.Streaming.EventBus
import Orchestra.Streaming.Subscriptions
import Orchestra.Templates.ContractReview
import Orchestra.Xfr.EgressPep
import Orchestra.Xfr.Projection
import Orchestra.AgenticHub.Decide
import Orchestra.Compiler.Acceptance
import Orchestra.Compiler.BindingClosure
import Orchestra.Compiler.Checkers
import Orchestra.Compiler.Graph
import Orchestra.Compiler.LabelFlow
import Orchestra.Compiler.Resolver
import Orchestra.Compiler.SecurityLabels
import Orchestra.Compiler.TrustCompiler
import Orchestra.Compiler.PlanSigner
import Orchestra.Enterprise.HoldCoverage
import Orchestra.Compiler.ApprovalCoverage
import Orchestra.Compiler.ParserNodes
import Orchestra.Compiler.PlanAmendment
import Orchestra.Coordinator.EngineCalls
import Orchestra.Coordinator.PlanningBudget
import Orchestra.Foundation.Unwinding
import Orchestra.Foundation.SharedTable
import Orchestra.Foundation.Cooperative
import Orchestra.Coordinator.ConcurrentRuns
import Orchestra.Coordinator.OwnCalls
import Orchestra.Coordinator.ApprovalIsolation
import Orchestra.Coordinator.StoreIsolation
import Orchestra.Coordinator.CallIsolation
import Orchestra.Coordinator.RunCourse
import Orchestra.Coordinator.RunIsolation
import Orchestra.Registry.RegistrationOrder
import Orchestra.Xfr.Redaction
import Orchestra.Enterprise.EffectCeiling
import Orchestra.Core.JsonFraming
import Orchestra.Compiler.PlanIntegrity
import Orchestra.Core.TimeParse
import Orchestra.Runtime.GrantLifetime
import Orchestra.Enterprise.RetryBudget
import Orchestra.Runtime.OutboxRetries
import Orchestra.Runtime.Reconciler
import Orchestra.Observability.RetryAfter
import Orchestra.Streaming.Sentinel
import Orchestra.Foundation.Membership
import Orchestra.Foundation.OrderBy
import Orchestra.Enterprise.EventOrder
import Orchestra.Foundation.Retry
import Orchestra.Foundation.Sequential
import Orchestra.Core.JsonAscii
import Orchestra.Core.JsonDumps
import Orchestra.Webhooks.Dispatcher
import Orchestra.Webhooks.History
import Orchestra.Webhooks.Wiring
import Orchestra.Opa.Interface
import Orchestra.Core.JsonIdentity
import Orchestra.Publishing.CardIntegrity
import Orchestra.Publishing.TokenRoundTrip
import Orchestra.Foundation.Tally
import Orchestra.Integrations.TaskTool
import Orchestra.Observability.HttpStack
import Orchestra.Observability.Metrics
import Orchestra.Ux.NodeRuns
import Orchestra.Ux.Timeline
import Orchestra.Foundation.OrderStatistic
import Orchestra.Ga.Slo
import Orchestra.Api.AdminLifecycle
import Orchestra.Api.Errors
import Orchestra.Benchmarks.Runner
import Orchestra.Benchmarks.Percentile
import Orchestra.Enterprise.PilotDrill
import Orchestra.Core.Lines
import Orchestra.Foundation.Balance
import Orchestra.Foundation.Requirement
import Orchestra.Enterprise.SupplyChain
import Orchestra.Enterprise.SbomCompleteness
import Orchestra.Webhooks.Redelivery
