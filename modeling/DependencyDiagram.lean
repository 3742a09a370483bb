import DependencyDiagram.Main
import DependencyDiagram.Register
import DependencyDiagram.Proofs.DeclaredGraph
import DependencyDiagram.Proofs.ResolverRun
import DependencyDiagram.Proofs.KeptModules
import DependencyDiagram.Proofs.CallHistory
import DependencyDiagram.Proofs.CycleCuts
import DependencyDiagram.Proofs.ResolvedGraph
import DependencyDiagram.Proofs.Visits
import DependencyDiagram.Proofs.Statements
import DependencyDiagram.Proofs.DrawnEdges
import DependencyDiagram.Proofs.ModuleNodes
import DependencyDiagram.Proofs.UnknownModules
import DependencyDiagram.Proofs.FileTree
import DependencyDiagram.Proofs.FileNames
import DependencyDiagram.Proofs.TargetTurns
import DependencyDiagram.Proofs.WrittenDiagrams
import DependencyDiagram.Proofs.DiagramFiles
import DependencyDiagram.Proofs.PackagePaths
import DependencyDiagram.Proofs.EnclosingWorkspace
import DependencyDiagram.Proofs.PackageEdges
import DependencyDiagram.Proofs.ClosedCatalog
import DependencyDiagram.Proofs.SplitTexts
import DependencyDiagram.Proofs.ConventionalPaths
import DependencyDiagram.Proofs.Sketches
import DependencyDiagram.Proofs.SketchTexts
import DependencyDiagram.Proofs.DotSketches
import DependencyDiagram.Proofs.MermaidSketches
import DependencyDiagram.Proofs.SketchAgreement
import DependencyDiagram.Proofs.RunAccounts
import DependencyDiagram.Proofs.LocalDiagrams
import DependencyDiagram.Proofs.AcceptedManifests
import DependencyDiagram.Proofs.Namespaces
import DependencyDiagram.Proofs.WrittenIdentifiers
import DependencyDiagram.Proofs.NodeIdentifiers
import DependencyDiagram.Proofs.IdentifierTokens
import DependencyDiagram.Proofs.EdgeOrder
import DependencyDiagram.Proofs.DirectLinks
import DependencyDiagram.Proofs.StyleAdditions
import DependencyDiagram.Proofs.QuotedLiterals
import DependencyDiagram.Proofs.QuotedValues
import DependencyDiagram.Proofs.NamespaceChildren
import DependencyDiagram.Proofs.CachedModules
import DependencyDiagram.Proofs.FilteredEdges
import DependencyDiagram.Proofs.RelocatedRoots
import DependencyDiagram.Proofs.ByteOrder
import DependencyDiagram.Proofs.RegisteredModules
import DependencyDiagram.Proofs.CoherentCatalogs
import DependencyDiagram.Proofs.ConsultedPaths
import DependencyDiagram.Proofs.TraversalEffort
import DependencyDiagram.Proofs.JsonKeys
import DependencyDiagram.Proofs.StyleEntries
import DependencyDiagram.Proofs.InsertedPaths
import DependencyDiagram.Proofs.LinePositions
