import CompilePolicy.Main
import CompilePolicy.Proofs.CommandLine.Checking
import CompilePolicy.Proofs.CommandLine.LineBreaks
import CompilePolicy.Proofs.CommandLine.Loading
import CompilePolicy.Proofs.CommandLine.Shown
import CompilePolicy.Proofs.Engine.Execution
import CompilePolicy.Proofs.Policy.Resolution
import CompilePolicy.Proofs.Tree.Agreement
import CompilePolicy.Proofs.Engine.Projection
import CompilePolicy.Proofs.Engine.Snapshot
import CompilePolicy.Proofs.Engine.Order
import CompilePolicy.Proofs.Policy.Delivery
import CompilePolicy.Proofs.Policy.LifeCycle
import CompilePolicy.Proofs.Policy.Layers
import CompilePolicy.Proofs.Policy.Locality
import CompilePolicy.Proofs.Engine.Accounting
import CompilePolicy.Proofs.Rule.Listing
import CompilePolicy.Proofs.Rule.AnnotationOrder
import CompilePolicy.Proofs.Yaml.Printing
import CompilePolicy.Proofs.Engine.Whitelist
import CompilePolicy.Proofs.Engine.Allowance
import CompilePolicy.Proofs.Engine.Retry
import CompilePolicy.Proofs.Tree.Acceptance
import CompilePolicy.Proofs.Tree.Elements
import CompilePolicy.Proofs.Tree.Names
import CompilePolicy.Proofs.Tree.Editing
import CompilePolicy.Proofs.Tree.Nulls
import CompilePolicy.Proofs.Tree.Containers
import CompilePolicy.Proofs.Tree.Places
import CompilePolicy.Proofs.Tree.RoundTrip
import CompilePolicy.Proofs.Report.Grouping
import CompilePolicy.Proofs.Report.Table
import CompilePolicy.Proofs.Csv.Reading
import CompilePolicy.Proofs.Policy.Precedence
import CompilePolicy.Proofs.Journal.Opening
import CompilePolicy.Proofs.Journal.Lineage
import CompilePolicy.Proofs.Journal.History
