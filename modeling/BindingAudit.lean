import BindingAudit.Text.Quoted
import BindingAudit.Text.Ordinal
import BindingAudit.Text.Uppercase
import BindingAudit.Text.Utf8
import BindingAudit.FinMap
import BindingAudit.Diagnostic
import BindingAudit.Fault
import BindingAudit.Settings
import BindingAudit.Program.TypeTable.Rendering
import BindingAudit.Program.TypeTable.Shape
import BindingAudit.Program.Definitions
import BindingAudit.Program.Scope
import BindingAudit.Program.Expr
import BindingAudit.Program.Traversal
import BindingAudit.Program.Draft
import BindingAudit.Binding.Registration
import BindingAudit.Binding.Invocation
import BindingAudit.Binding.Arguments
import BindingAudit.Binding.Transport
import BindingAudit.Audit.Run
import BindingAudit.Codec.Wire
import BindingAudit.Codec.Writing
import BindingAudit.Codec.Reading
import BindingAudit.Codec.Json
import BindingAudit.Codec.MessagePack
import BindingAudit.Audit.SnapshotFile
import BindingAudit.Command.FileTree
import BindingAudit.Command.Line
import BindingAudit.Main
import BindingAudit.Proofs.Occurrence
import BindingAudit.Proofs.ReportExactness
import BindingAudit.Proofs.TransportExactness
import BindingAudit.Proofs.DependencySearch
import BindingAudit.Proofs.DependencyClosure
import BindingAudit.Proofs.AuditRefinement
import BindingAudit.Proofs.UnitPermutation
import BindingAudit.Proofs.LiteralNames
import BindingAudit.Proofs.OrderFaults
import BindingAudit.Proofs.StableOrder
import BindingAudit.Proofs.WireReading
import BindingAudit.Proofs.Nesting
import BindingAudit.Proofs.SnapshotReading
import BindingAudit.Proofs.JsonTexts
import BindingAudit.Proofs.MessagePackReading
import BindingAudit.Proofs.JsonReading
import BindingAudit.Proofs.JsonNesting
import BindingAudit.Proofs.SnapshotRoundTrip
import BindingAudit.Proofs.CutFiles
import BindingAudit.Proofs.RegistrationExactness
import BindingAudit.Proofs.OccurrenceCount
import BindingAudit.Proofs.ReportComposition
import BindingAudit.Proofs.SummaryCounts
import BindingAudit.Proofs.Verbosity
import BindingAudit.Proofs.PointerStrictness
import BindingAudit.Proofs.TransportIndependence
import BindingAudit.Proofs.TypeIdentity
import BindingAudit.Proofs.StructuralIdentity
import BindingAudit.Proofs.IdenticalArguments
import BindingAudit.Proofs.CommandOutcome
import BindingAudit.Proofs.ViolationRoutes
import BindingAudit.Proofs.TransportSimulation
import BindingAudit.Proofs.StaticCallees
import BindingAudit.Proofs.VariadicExpansion
import BindingAudit.Proofs.TagGrammar
import BindingAudit.Proofs.ScopeChain
import BindingAudit.Proofs.SourceOrder
import BindingAudit.Proofs.BreadthFirst
import BindingAudit.Proofs.RegistryContents
import BindingAudit.Proofs.DefinitionGrowth
import BindingAudit.Proofs.PackageItems
import BindingAudit.Proofs.DraftCalls
import BindingAudit.Proofs.ScopeNesting
import BindingAudit.Proofs.FileScopes
import BindingAudit.Proofs.ScopeGrowth
import BindingAudit.Proofs.LastingMeaning
import BindingAudit.Proofs.PackageMembers
import BindingAudit.Proofs.TypeTexts
import BindingAudit.Proofs.UnderlyingTrail
import BindingAudit.Proofs.ChainEnds
import BindingAudit.Proofs.TableGrowth
