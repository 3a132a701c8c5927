import DebugExpr.Batch
import DebugExpr.Configuration
import DebugExpr.Console.Run
import DebugExpr.Log.Journal
import DebugExpr.Log.Setup
import DebugExpr.Machine.ImageToml
import DebugExpr.Main
import DebugExpr.Proofs.Accesses
import DebugExpr.Proofs.Agreement
import DebugExpr.Proofs.BatchFiles
import DebugExpr.Proofs.BuiltinRules
import DebugExpr.Proofs.Calls
import DebugExpr.Proofs.Completion
import DebugExpr.Proofs.Condensing
import DebugExpr.Proofs.DepthLimit
import DebugExpr.Proofs.DisjointSegments
import DebugExpr.Proofs.ExpectedValues
import DebugExpr.Proofs.Expression
import DebugExpr.Proofs.Factorization
import DebugExpr.Proofs.Faults
import DebugExpr.Proofs.Grammar
import DebugExpr.Proofs.Grouping
import DebugExpr.Proofs.ImageBuilding
import DebugExpr.Proofs.ImageMemory
import DebugExpr.Proofs.LexicalErrors
import DebugExpr.Proofs.Locations
import DebugExpr.Proofs.LogValues
import DebugExpr.Proofs.Meaning
import DebugExpr.Proofs.MemoryUpdates
import DebugExpr.Proofs.Narrowing
import DebugExpr.Proofs.OuterOperators
import DebugExpr.Proofs.Parsing
import DebugExpr.Proofs.Partners
import DebugExpr.Proofs.Plan
import DebugExpr.Proofs.Ranges
import DebugExpr.Proofs.Reading
import DebugExpr.Proofs.Reclassification
import DebugExpr.Proofs.RegisterOperands
import DebugExpr.Proofs.Rendering
import DebugExpr.Proofs.Reporting
import DebugExpr.Proofs.Respacing
import DebugExpr.Proofs.Splitting
import DebugExpr.Proofs.Structural
import DebugExpr.Proofs.TextBounds
import DebugExpr.SelfCheck
