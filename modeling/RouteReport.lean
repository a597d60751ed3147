import RouteReport.Main
import RouteReport.Proofs.Index.Coherence
import RouteReport.Proofs.Index.Independence
import RouteReport.Proofs.Report.RoundTrip
import RouteReport.Proofs.Report.Soundness
import RouteReport.Proofs.Resolution.NamedParent
import RouteReport.Proofs.Index.Lookup
import RouteReport.Proofs.Report.Locality
import RouteReport.Proofs.Resolution.NamedModule
import RouteReport.Proofs.FileTree.Walk
import RouteReport.Proofs.Index.Coverage
import RouteReport.Resolution.Update
import RouteReport.Proofs.Resolution.Correspondence
import RouteReport.Proofs.Resolution.Updates
import RouteReport.Proofs.Resolution.Steady
import RouteReport.Proofs.Index.Building
import RouteReport.Proofs.Index.Rejection
import RouteReport.Proofs.Report.FailedStream
import RouteReport.Proofs.Report.Reuse
import RouteReport.Proofs.Console.Printing
import RouteReport.Proofs.Export.Recovery
import RouteReport.Proofs.Resolution.OwnController
import RouteReport.Proofs.Report.ErrorOutput
import RouteReport.Proofs.Index.Stability
import RouteReport.Proofs.Report.Expansion
import RouteReport.Proofs.Naming.Conversion
import RouteReport.Proofs.Naming.CanonicalNames
import RouteReport.Proofs.Task.GemComments
import RouteReport.Proofs.Report.MountedConstants
import RouteReport.Proofs.Route.Placeholders
import RouteReport.Proofs.Report.LineEnds
import RouteReport.Proofs.Report.HashTargets
import RouteReport.Proofs.Route.Search
import RouteReport.Proofs.Route.Aggregates
import RouteReport.Proofs.FileTree.Containment
import RouteReport.Proofs.Naming.LexicalNesting
