import Rewinding.Action
import Rewinding.ActionKey
import Rewinding.Arguments
import Rewinding.Artifact
import Rewinding.Blake3
import Rewinding.Build
import Rewinding.CommandLine
import Rewinding.Config
import Rewinding.Config.Load
import Rewinding.Config.Rejection
import Rewinding.Config.Validate
import Rewinding.Crew
import Rewinding.Description
import Rewinding.Description.Assembly
import Rewinding.Description.OfToml
import Rewinding.Diagnosis
import Rewinding.Evaluation
import Rewinding.Failure
import Rewinding.FileTree
import Rewinding.Graph
import Rewinding.Listing
import Rewinding.LogFilter
import Rewinding.LogFilter.Directive
import Rewinding.LogLevel
import Rewinding.Loss
import Rewinding.Main
import Rewinding.Node
import Rewinding.Ownership
import Rewinding.Plan
import Rewinding.Planning
import Rewinding.Precedence
import Rewinding.Procedure
import Rewinding.Proofs.Accepted
import Rewinding.Proofs.Ancestors
import Rewinding.Proofs.Arrivals
import Rewinding.Proofs.Attempts
import Rewinding.Proofs.Attribution
import Rewinding.Proofs.Calls
import Rewinding.Proofs.Cancellation
import Rewinding.Proofs.CancelledBuilds
import Rewinding.Proofs.Closure
import Rewinding.Proofs.Companions
import Rewinding.Proofs.Cycles
import Rewinding.Proofs.Delivery
import Rewinding.Proofs.Diagnosis
import Rewinding.Proofs.Effect
import Rewinding.Proofs.Errand
import Rewinding.Proofs.Eviction
import Rewinding.Proofs.Fairness
import Rewinding.Proofs.FinishOrder
import Rewinding.Proofs.Frame
import Rewinding.Proofs.Freshness
import Rewinding.Proofs.Generations
import Rewinding.Proofs.Grammar
import Rewinding.Proofs.Guards
import Rewinding.Proofs.Handling
import Rewinding.Proofs.History
import Rewinding.Proofs.Isolation
import Rewinding.Proofs.Kinds
import Rewinding.Proofs.Limit
import Rewinding.Proofs.LostPaths
import Rewinding.Proofs.Names
import Rewinding.Proofs.NewBuild
import Rewinding.Proofs.Nodes
import Rewinding.Proofs.Owners
import Rewinding.Proofs.Parting
import Rewinding.Proofs.Passes
import Rewinding.Proofs.Planning
import Rewinding.Proofs.Precedence
import Rewinding.Proofs.Promptness
import Rewinding.Proofs.Provenance
import Rewinding.Proofs.Recording
import Rewinding.Proofs.Reports
import Rewinding.Proofs.Rewinds
import Rewinding.Proofs.Running
import Rewinding.Proofs.Runs
import Rewinding.Proofs.Sections
import Rewinding.Proofs.Sources
import Rewinding.Proofs.Structure
import Rewinding.Proofs.Tally
import Rewinding.Proofs.Trace
import Rewinding.Proofs.Upstream
import Rewinding.Proofs.Validation
import Rewinding.Proofs.Values
import Rewinding.Proofs.Verdicts
import Rewinding.Proofs.Walk
import Rewinding.Proofs.Watch
import Rewinding.Proofs.Worklist
import Rewinding.Rehearsal
import Rewinding.ReportMode
import Rewinding.Restart
import Rewinding.Scenario
import Rewinding.Service
import Rewinding.Session
import Rewinding.Text.Alphanumeric
import Rewinding.Text.Blank
import Rewinding.Text.Hexadecimal
import Rewinding.Text.Lowercase
import Rewinding.Text.Lowercase.Table
import Rewinding.Text.Numeral
import Rewinding.Text.Pattern
import Rewinding.Text.Pattern.Atom
import Rewinding.Text.Pattern.Class
import Rewinding.Text.Pattern.Group
import Rewinding.Text.Quoted
import Rewinding.Text.Slice
import Rewinding.Text.Visible
import Rewinding.Toml.Document
import Rewinding.Toml.Lexical
import Rewinding.Toml.Scalar
import Rewinding.Toml.Value
import Rewinding.Walk
