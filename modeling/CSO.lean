import CSO.Transition.Machine
import CSO.Transition.History
import CSO.Gateway.Machine
import CSO.Gateway.Attribution
import CSO.Gateway.Balance
import CSO.Gateway.Items
import CSO.Gateway.Replay
import CSO.Gateway.Terminal
import CSO.Workers.Outcome
import CSO.Workers.Offering
import CSO.Gateway.Outbox
import CSO.System.Machine
import CSO.System.Delivery
import CSO.Transition.Progress
import CSO.Workers.Collection
import CSO.Workers.Deadline
import CSO.Workers.Cases
import CSO.Workers.Closing
import CSO.HumanOperations.Case
import CSO.HumanOperations.Evidence
import CSO.Transition.Transaction
import CSO.HumanOperations.CaseRepository
import CSO.HumanOperations.EvidenceRepository
import CSO.HumanOperations.Dossier
import CSO.HumanOperations.CaseSteps
import CSO.HumanOperations.EvidenceSteps
import CSO.HumanOperations.Machine
import CSO.HumanOperations.Trail
import CSO.HumanOperations.Lifecycle
import CSO.HumanOperations.Documents
import CSO.JS.Schema
import CSO.HumanOperations.Snapshot
import CSO.Workers.EvidenceClient
import CSO.Edge.EvidenceClient
import CSO.HumanOperations.Frozen
import CSO.System.AcceptedEvidence
import CSO.HumanOperations.Governance
import CSO.System.Dispatch
import CSO.Conversation.Repository
import CSO.Gateway.Events
import CSO.Conversation.Steps
import CSO.Conversation.Machine
import CSO.Conversation.MessageProtection
import CSO.Conversation.Integrity
import CSO.JS.Quote
import CSO.Conversation.Deduplication
import CSO.JS.Digest
import CSO.Edge.Keys
import CSO.Conversation.Senders
import CSO.Edge.OrderReference
import CSO.Edge.ConversationContext
import CSO.JS.Number
import CSO.JS.JsonTree
import CSO.RefundPolicy.Catalog
import CSO.Workers.Evaluation
import CSO.AgentRuntime.PolicyCatalog
import CSO.System.PolicyCatalogs
import CSO.KnowledgeRag.Documents
import CSO.KnowledgeRag.Release
import CSO.Transition.Upsert
import CSO.KnowledgeRag.Index
import CSO.KnowledgeRag.Adapter
import CSO.JS.JsonSchema
import CSO.JS.Form
import CSO.Edge.EvidenceContract
import CSO.Workers.Monotone
import CSO.Gateway.Refundable
import CSO.AgentRuntime.Presentation
import CSO.System.AmountReview
import CSO.HumanOperations.Quotas
import CSO.HumanOperations.UploadLeases
import CSO.Transition.Ranking
import CSO.KnowledgeRag.Fusion
import CSO.JS.Utf16
import CSO.JS.Utf8
import CSO.JS.Canonical
import CSO.Workers.FactsHash
import CSO.Transition.Frame
import CSO.HumanOperations.Replays
import CSO.System.Transcripts
import CSO.Python.Regex
import CSO.Python.Reading
import CSO.Python.Pieces
import CSO.AgentRuntime.AnswerGuard
import CSO.AgentRuntime.IdentifierGuard
import CSO.AgentRuntime.GuardedText
import CSO.AgentRuntime.SentAnswer
import CSO.KnowledgeRag.Chunking
import CSO.KnowledgeRag.Coverage
import CSO.KnowledgeRag.Budget
import CSO.JS.Utf8Cuts
import CSO.KnowledgeRag.Slices
import CSO.KnowledgeRag.Parsers
import CSO.KnowledgeRag.HeadingChain
import CSO.KnowledgeRag.Filing
import CSO.KnowledgeRag.FiledLines
import CSO.KnowledgeRag.BodyText
import CSO.Python.Strings
import CSO.Python.Dicts
import CSO.Transition.Results
import CSO.EvaluationRunner.Models
import CSO.EvaluationRunner.Runner
import CSO.EvaluationRunner.Finished
import CSO.EvaluationRunner.Baseline
import CSO.EvaluationRunner.Regressions
import CSO.EvaluationRunner.Usage
import CSO.EvaluationRunner.UsageEntries
import CSO.EvaluationRunner.UsageTotals
import CSO.EvaluationRunner.UsageReports
import CSO.EvaluationRunner.UsageCosts
import CSO.Transition.Doubles
import CSO.JS.Map
import CSO.Gateway.MemoryRepository
import CSO.Gateway.MemoryDouble
import CSO.HumanOperations.MemoryRepository
import CSO.HumanOperations.MemoryHolds
import CSO.HumanOperations.MemoryKeys
import CSO.HumanOperations.MemorySteps
import CSO.HumanOperations.MemoryDouble
import CSO.JS.Written
import CSO.Assertions.Claims
import CSO.Assertions.ContextModels
import CSO.Assertions.Signers
import CSO.Assertions.Verifiers
import CSO.Assertions.Deployment
import CSO.Assertions.Doors
import CSO.Assertions.Opening
import CSO.Assertions.Network
import CSO.Conversation.Links
import CSO.Edge.MessageRoute
