import DriverMicroServices.Requests
import DriverMicroServices.Effects
import DriverMicroServices.Lifecycle
import DriverMicroServices.Acceptance
import DriverMicroServices.ExclusiveDriver
import DriverMicroServices.WellFormed
import DriverMicroServices.OtpRegeneration
import DriverMicroServices.Sequential
import DriverMicroServices.OtpGuard
import DriverMicroServices.Projections
import DriverMicroServices.OfferChain
import DriverMicroServices.SafeDispatch
import DriverMicroServices.Transactions.Assertions
import DriverMicroServices.Events
import DriverMicroServices.OrderIntake
import DriverMicroServices.LocationPings
import DriverMicroServices.SlaMonitor
import DriverMicroServices.FailureForwarding
import DriverMicroServices.OutboxSteps
import DriverMicroServices.CircuitBreaker
import DriverMicroServices.OutboxWorker
import DriverMicroServices.Transactions.RowInvariant
import DriverMicroServices.OutboxClaims
import DriverMicroServices.OutboxCompletion
import DriverMicroServices.OutboxRetries
import DriverMicroServices.OutboxCleanup
import DriverMicroServices.OutboxArchive
import DriverMicroServices.OutboxDedup
import DriverMicroServices.OutboxRows
import DriverMicroServices.AssignmentForwarding
import DriverMicroServices.Rollout
import DriverMicroServices.DispatchConfigs
import DriverMicroServices.KillSwitch
import DriverMicroServices.DispatchScores
import DriverMicroServices.Eligibility
import DriverMicroServices.DriverSearch
import DriverMicroServices.Presence
import DriverMicroServices.ProofUploads
import DriverMicroServices.CircuitRuns
import DriverMicroServices.DriverStats
import DriverMicroServices.DriverCounters
import DriverMicroServices.RejectedCalls
import DriverMicroServices.Idempotency
import DriverMicroServices.DeadLetter
import DriverMicroServices.PoisonRows
import DriverMicroServices.IdempotentFallback
import DriverMicroServices.AuthTokens
import DriverMicroServices.TokenRevocation
import DriverMicroServices.Authorization
import DriverMicroServices.CityChanges
import DriverMicroServices.CityReads
import DriverMicroServices.ExecutionOrder
import DriverMicroServices.RegistrationLifecycle
import DriverMicroServices.Texts.Regex
import DriverMicroServices.Texts.Tokens
import DriverMicroServices.LifecycleSplit
import DriverMicroServices.SplitStatements
import DriverMicroServices.ExpandContract
import DriverMicroServices.CreationOrder
import DriverMicroServices.OperationClasses
import DriverMicroServices.MigrationBoot
import DriverMicroServices.BackfillWorkers
import DriverMicroServices.AdminTokens
import DriverMicroServices.AdminLockout
import DriverMicroServices.DeliveryOwnership
import DriverMicroServices.SplitMeaning
import DriverMicroServices.SplitNames
import DriverMicroServices.CycleChecks
import DriverMicroServices.PlanValidation
import DriverMicroServices.SplitOrder
import DriverMicroServices.TableChecks
import DriverMicroServices.MigrationEvidence
import DriverMicroServices.FileOrder
import DriverMicroServices.MigrationRoundTrip
import DriverMicroServices.IntentTranslation
import DriverMicroServices.PolicyGate
import DriverMicroServices.BackfillBatches
import DriverMicroServices.BackfillRuns
import DriverMicroServices.Locks.Advisory
import DriverMicroServices.SchemaLock
import DriverMicroServices.Tables.Index
import DriverMicroServices.SchemaDifferences
import DriverMicroServices.SchemaDrift
import DriverMicroServices.DriftRuns
import DriverMicroServices.RuntimeClasses
import DriverMicroServices.SchemaBoot
import DriverMicroServices.SchemaConvergence
import DriverMicroServices.Texts.Reads
import DriverMicroServices.ClassAgreement
import DriverMicroServices.BackfillStatements
import DriverMicroServices.Transactions.Compensation
import DriverMicroServices.Texts.Spelling
import DriverMicroServices.IntentStatements
import DriverMicroServices.IntentReadings
import DriverMicroServices.IntentReversal
import DriverMicroServices.MigrationReadiness
import DriverMicroServices.ReadinessRuns
import DriverMicroServices.Transactions.Attempts
import DriverMicroServices.SchemaVerifier
import DriverMicroServices.SchemaRepairs
import DriverMicroServices.AutoRepair
import DriverMicroServices.MigrationReplay
import DriverMicroServices.Texts.Choices
import DriverMicroServices.RiskReports
import DriverMicroServices.BreakingReports
import DriverMicroServices.Texts.Removal
import DriverMicroServices.MigrationLint
import DriverMicroServices.LintedFiles
import DriverMicroServices.LintSoundness
import DriverMicroServices.Texts.Words
import DriverMicroServices.LintedCalls
import DriverMicroServices.BuiltChanges
import DriverMicroServices.ChangePhases
import DriverMicroServices.WrittenPhases
import DriverMicroServices.GeneratedLint
import DriverMicroServices.Geofence
import DriverMicroServices.ClaimedEvents
import DriverMicroServices.MonitoringWindow
import DriverMicroServices.Texts.Leaves
import DriverMicroServices.ArchiveCompression
import DriverMicroServices.GracefulShutdown
import DriverMicroServices.DriverAverages
import DriverMicroServices.IdempotentAnswers
import DriverMicroServices.ScoreWeights
import DriverMicroServices.Limits.SlidingWindow
import DriverMicroServices.ConnectionLimits
import DriverMicroServices.WebhookSignature
import DriverMicroServices.Tables.Tally
import DriverMicroServices.Earnings
import DriverMicroServices.AdaptiveBatch
import DriverMicroServices.EventMetrics
import DriverMicroServices.BackfillPartitions
import DriverMicroServices.Texts.Phrases
import DriverMicroServices.OperationConflicts
import DriverMicroServices.MaintenanceHours
import DriverMicroServices.IntentEstimates
import DriverMicroServices.ChangeClassification
import DriverMicroServices.CompatibilityVerdicts
import DriverMicroServices.Tables.Pairs
import DriverMicroServices.CompatibilityGraph
import DriverMicroServices.Tables.TwoSided
import DriverMicroServices.DetailedDiff
import DriverMicroServices.Tables.Counts
import DriverMicroServices.DeliveryHealth
import DriverMicroServices.Deadlocks
import DriverMicroServices.AuditTrail
import DriverMicroServices.PublishedEvents
import DriverMicroServices.EmailCodes
import DriverMicroServices.AvailabilityIndex
