import AgentPact.Base.Table
import AgentPact.Base.Transaction
import AgentPact.Base.Lts
import AgentPact.Governance.Contracts
import AgentPact.Governance.Permits
import AgentPact.Governance.Attempts
import AgentPact.Governance.Lifecycle
import AgentPact.BrowserLoop.Contracts
import AgentPact.BrowserLoop.PersistedExecutor
import AgentPact.BrowserLoop.ExecutorMoves
import AgentPact.BrowserLoop.ExecutorSafety
import AgentPact.Base.Dialogue
import AgentPact.BrowserLoop.Loop
import AgentPact.BrowserLoop.LoopHistory
import AgentPact.BrowserLoop.LoopSafety
import AgentPact.BrowserLoop.LoopRuns
import AgentPact.AgentRuns.Journal
import AgentPact.AgentRuns.PauseSignal
import AgentPact.AgentRuns.Database
import AgentPact.AgentRuns.Append
import AgentPact.AgentRuns.Approvals
import AgentPact.AgentRuns.Coordinator
import AgentPact.AgentRuns.Projection
import AgentPact.AgentRuns.Frames
import AgentPact.AgentRuns.Service
import AgentPact.AgentRuns.Terminal
import AgentPact.AgentRuns.Cancellation
import AgentPact.AgentRuns.ProbeRecovery
import AgentPact.AgentRuns.ApproveRecovery
import AgentPact.AgentRuns.Settlement
import AgentPact.AgentRuns.AppendRuns
import AgentPact.Base.Progress
import AgentPact.AgentRuns.CompletedPrefix
import AgentPact.Base.HashChain
import AgentPact.Documents
import AgentPact.AgentRuns.JournalRows
import AgentPact.AgentRuns.ApprovalPauses
import AgentPact.AgentRuns.ApprovalRounds
import AgentPact.AgentRuns.ApprovalQueue
import AgentPact.AgentRuns.Writes
import AgentPact.AgentRuns.Coherence
import AgentPact.AgentRuns.CoherentRuns
import AgentPact.AgentRuns.CoherentReads
import AgentPact.AgentRuns.ApprovalAuthority
import AgentPact.AgentRuns.ApprovalCoherence
import AgentPact.AgentRuns.PauseStore
import AgentPact.AgentRuns.PauseDigests
import AgentPact.Governance.RuntimeRegistry
import AgentPact.Governance.RegistrySafety
import AgentPact.Values
import AgentPact.Governance.Capabilities
import AgentPact.Agent.WorkOrders
import AgentPact.Agent.Interactions
import AgentPact.Governance.Admission
import AgentPact.Agent.Replanning
import AgentPact.Governance.AdmissionAuthority
import AgentPact.Governance.AdmissionOnce
import AgentPact.StripePayment.Harness
import AgentPact.StripePayment.ExactlyOnce
import AgentPact.StripePayment.ResultProbe
import AgentPact.StripePayment.ApprovedProbe
import AgentPact.AgentRuns.PlanConservation
import AgentPact.AgentRuns.RecoveryScan
import AgentPact.AgentRuns.Expiry
import AgentPact.BrowserLoop.AbandonedRows
import AgentPact.AgentRuns.InputSubmission
import AgentPact.AgentRuns.ResumeExecution
import AgentPact.AgentRuns.ApprovedOnce
import AgentPact.StripePayment.Compilation
import AgentPact.StripePayment.Preparation
import AgentPact.StripePayment.BusinessValues
import AgentPact.StripePayment.Restoration
import AgentPact.StripePayment.Advancing
import AgentPact.BrowserLoop.LoopAudit
import AgentPact.Agent.ReplanAuthority
import AgentPact.Agent.PlannerObservation
import AgentPact.AgentRuns.DecisionTrace
import AgentPact.Agent.ProposalAuthority
import AgentPact.Base.Base64
import AgentPact.Base.Calendar
import AgentPact.Base.IsoFormat
import AgentPact.Base.JsonText
import AgentPact.AgentRuns.Cursor
import AgentPact.Base.Keyset
import AgentPact.AgentRuns.RunListing
import AgentPact.Governance.AdmissionOrder
import AgentPact.Governance.AdmissionTerms
import AgentPact.Governance.AdmissionDuplicates
import AgentPact.Governance.CapabilityResolution
import AgentPact.Tenant.TaskVisibility
import AgentPact.Governance.PackConformance
import AgentPact.Governance.ActivePackSet
import AgentPact.Governance.FactSources
import AgentPact.StripePayment.ProbeContext
import AgentPact.StripePayment.LiveKeys
import AgentPact.JsonDump
import AgentPact.Governance.ExecutionGuard
import AgentPact.Base.LowerCase
import AgentPact.Governance.Analysis
import AgentPact.Governance.Redaction
import AgentPact.AgentRuns.ApprovalCalls
import AgentPact.AgentRuns.ApprovalPairs
import AgentPact.Base.Binary64
import AgentPact.Base.Grouping
import AgentPact.Evaluation.QuantitativeBenchmark
import AgentPact.Evaluation.PairedBenchmark
import AgentPact.Evaluation.PairedCounts
import AgentPact.AgentRuns.TenantRows
import AgentPact.AgentRuns.TenantCommands
import AgentPact.AgentRuns.Noninterference
import AgentPact.AgentRuns.Creation
import AgentPact.StripePayment.Admitting
import AgentPact.AgentRuns.CommandWrites
import AgentPact.AgentRuns.TenantRuns
import AgentPact.AgentRuns.FourEyes
import AgentPact.StripePayment.RequestRows
import AgentPact.StripePayment.CreationRuns
import AgentPact.StripePayment.CreationAnswers
import AgentPact.StripePayment.ProbeRuns
import AgentPact.StripePayment.ProbeSafety
import AgentPact.BrowserLoop.PageEffects
import AgentPact.BrowserLoop.LoopOnPage
