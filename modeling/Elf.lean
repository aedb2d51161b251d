import Elf.Lib.Table
import Elf.Lib.Run
import Elf.Lib.Text
import Elf.Lib.Json
import Elf.Lib.F32
import Elf.Domain.WriteGate
import Elf.Lib.Transaction
import Elf.Storage.Models
import Elf.Service.AddNote
import Elf.Service.History
import Elf.Service.Access
import Elf.Service.StructuredFields
import Elf.Service.AddEvent
import Elf.Service.Update
import Elf.Service.Sharing
import Elf.Service.MemoryCorrections
import Elf.Domain.Consolidation
import Elf.Service.Review
import Elf.Service.Op
import Elf.Service.Lemmas.Write
import Elf.Service.Lemmas.MemoryCorrections
import Elf.Service.Lemmas.AddNote
import Elf.Service.Lemmas.AddEvent
import Elf.Service.Lemmas.Review
import Elf.Service.Lemmas.Op
import Elf.Properties.OrgScope
import Elf.Properties.History
import Elf.Properties.FieldsFollowText
import Elf.Properties.Publish
import Elf.Properties.ReviewLifecycle
import Elf.Properties.Restore
import Elf.Properties.KeyedIdentity
import Elf.Properties.KeyedWriters
import Elf.Worker.Chunking
import Elf.Lib.PointFilter
import Elf.Search.Candidates
import Elf.Graph.Models
import Elf.Properties.Visibility
import Elf.Graph.Ingestion
import Elf.Graph.Lemmas.Names
import Elf.Graph.Lemmas.Declare
import Elf.Graph.Lemmas.Ingestion
import Elf.Properties.EntityIdentity
import Elf.Graph.Lemmas.Facts
import Elf.Lib.Succession
import Elf.Properties.TruthOverTime
import Elf.Graph.Predicates
import Elf.Graph.Lemmas.Predicates
import Elf.Properties.PredicateScopes
import Elf.Docs.Models
import Elf.Docs.Validation
import Elf.Lib.JsonText
import Elf.Docs.Lemmas
import Elf.Properties.DocumentIdentity
import Elf.Lib.JobQueue
import Elf.Worker.DocIndexing
import Elf.Properties.DocConvergence
import Elf.Worker.NoteIndexing
import Elf.Worker.Lemmas.NoteIndexing
import Elf.Worker.Lemmas.NoteJobs
import Elf.Properties.NoteConvergence
import Elf.Properties.RebuildSafety
import Elf.Properties.FilterLanguage
import Elf.Lib.Slice
import Elf.Worker.Lemmas.Chunking
import Elf.Properties.Snippets
import Elf.Docs.Excerpts
import Elf.Evidence.Claims
import Elf.Evidence.Lemmas.Windows
import Elf.Evidence.Lemmas.Reference
import Elf.Evidence.Sources
import Elf.Evidence.Pack
import Elf.Evidence.Recall
import Elf.Evidence.Lemmas.Pack
import Elf.Properties.EvidenceClosure
import Elf.Evidence.Lemmas.PackWindows
import Elf.Properties.EvidenceReferences
import Elf.Evidence.Lemmas.Quotes
import Elf.Properties.NoteSources
import Elf.Lib.Sorting
import Elf.Properties.Replay
import Elf.Properties.ScoreTerms
import Elf.ContextPack.Assembly
import Elf.Lib.Passes
import Elf.Properties.CandidateFusion
import Elf.Properties.ChunkOffsets
import Elf.Properties.ConsolidationRuns
import Elf.Properties.ContextPacks
import Elf.Properties.DiversitySelection
import Elf.Properties.FilterEvaluation
import Elf.Properties.RecursiveBounds
import Elf.Properties.RerankRanks
import Elf.Properties.SourceMutations
import Elf.Properties.TraceDecisions
import Elf.Properties.WritePolicies
import Elf.Service.EventMessages
import Elf.Properties.EventLocators
import Elf.Knowledge.Lemmas.Sources
import Elf.Service.MachineArithmetic
import Elf.Lib.Windows
import Elf.Properties.ChunkWindows
import Elf.Properties.Excerpts
import Elf.Properties.SourceDiversity
import Elf.Properties.TokenWindow
import Elf.Evidence.Lemmas.Claims
import Elf.Properties.ClaimBindings
import Elf.Properties.ConflictSources
import Elf.Properties.RerankRoundTrip
import Elf.Properties.OutboxErrors
import Elf.Properties.ScopeOrder
import Elf.Graph.Lemmas.Texts
import Elf.Properties.SecretTexts
import Elf.Properties.SourceIdentity
import Elf.Evidence.Lemmas.Overlaps
import Elf.Properties.OverlapMerging
import Elf.Properties.EvidenceSpans
import Elf.Properties.FactIngestion
import Elf.Properties.ReportAmbiguity
import Elf.Properties.ProfileParsing
import Elf.Properties.SessionReadback
import Elf.Properties.PageDisclosure
import Elf.Properties.PageSearch
import Elf.Properties.PageRebuild
import Elf.ProgressiveSearch.Session
import Elf.ProgressiveSearch.Details
import Elf.ProgressiveSearch.Lemmas
import Elf.Properties.SearchCaches
import Elf.Properties.SearchDetails
import Elf.CoreBlocks.Service
import Elf.CoreBlocks.Lemmas
import Elf.Properties.CoreBlocks
import Elf.Service.Lemmas.Grants
import Elf.Properties.SharedSpaces
import Elf.Properties.NoteListing
import Elf.Search.TracePayload
import Elf.Worker.TraceJobs
import Elf.Properties.TracePersistence
import Elf.Lib.Rows
import Elf.Search.TraceGet
import Elf.Properties.RecentTraces
import Elf.Properties.TraceReadback
import Elf.Properties.NoteLifecycle
import Elf.IngestionProfiles.Store
import Elf.Properties.IngestionProfiles
import Elf.Api.Auth
import Elf.Api.Routes
import Elf.Properties.ApiIdentity
import Elf.Properties.ApiAuthority
import Elf.Properties.HitCounts
import Elf.Properties.IngestDecisions
