import Dataflow.Capability.Basic
import Dataflow.Capability.Call
import Dataflow.Capability.Remote
import Dataflow.Capability.Route
import Dataflow.Capability.Source
import Dataflow.Cli.Arguments
import Dataflow.Cli.Program
import Dataflow.Clock
import Dataflow.Decimal.Fixed
import Dataflow.Decimal.Numeral
import Dataflow.Decimal.Shortest
import Dataflow.Decode.FromJson
import Dataflow.Decode.Mismatch
import Dataflow.Decode.Readable
import Dataflow.Decode.Record
import Dataflow.Distinct
import Dataflow.Error
import Dataflow.Expr.Arithmetic
import Dataflow.Expr.Compare
import Dataflow.Expr.Eval
import Dataflow.Expr.Literal
import Dataflow.Expr.Operator
import Dataflow.Expr.Split
import Dataflow.Http.Guard
import Dataflow.Http.Message
import Dataflow.Json.Basic
import Dataflow.Json.Number
import Dataflow.Json.Printer
import Dataflow.Json.Reader
import Dataflow.Json.Token
import Dataflow.Keyed
import Dataflow.Kinds.Capability
import Dataflow.Kinds.Decision
import Dataflow.Kinds.Delay
import Dataflow.Kinds.Handler
import Dataflow.Kinds.Http
import Dataflow.Kinds.Loop
import Dataflow.Kinds.Transform
import Dataflow.Kinds.Wiring
import Dataflow.Main
import Dataflow.Path
import Dataflow.Run.Engine
import Dataflow.Run.Gather
import Dataflow.Run.Log
import Dataflow.Run.Metrics
import Dataflow.Run.Registry
import Dataflow.Run.Report
import Dataflow.Run.Standard
import Dataflow.Service
import Dataflow.Settings.Basic
import Dataflow.Settings.Source
import Dataflow.Template
import Dataflow.Text.Blank
import Dataflow.Text.CaseRun
import Dataflow.Text.Composed
import Dataflow.Text.Direction
import Dataflow.Text.Escape
import Dataflow.Text.Hex
import Dataflow.Text.Joining
import Dataflow.Text.Percent
import Dataflow.Text.Pieces
import Dataflow.Text.Quoted
import Dataflow.Text.Upper
import Dataflow.Text.Utf8
import Dataflow.Text.Visible
import Dataflow.Toml.Document
import Dataflow.Toml.Scalar
import Dataflow.Toml.Text
import Dataflow.Toml.Typed
import Dataflow.Toml.Value
import Dataflow.Url.Basic
import Dataflow.Url.Domain
import Dataflow.Url.Encoding
import Dataflow.Url.Folded
import Dataflow.Url.Host
import Dataflow.Url.Ipv4
import Dataflow.Url.Ipv6
import Dataflow.Url.Punycode
import Dataflow.Url.Read
import Dataflow.Workflow.Basic
import Dataflow.Workflow.Check
import Dataflow.Workflow.Encode
import Dataflow.Workflow.Graph
import Dataflow.Workflow.Source
import Dataflow.Yaml.BlockScalar
import Dataflow.Yaml.Content
import Dataflow.Yaml.Document
import Dataflow.Yaml.FlowScalar
import Dataflow.Yaml.Lexer
import Dataflow.Yaml.Node
import Dataflow.Yaml.Placed
import Dataflow.Yaml.Property
import Dataflow.Yaml.Scalar
import Dataflow.Yaml.Subtree
import Dataflow.Yaml.Token
import Dataflow.Proofs.Capability.Remote
import Dataflow.Proofs.Capability.Route
import Dataflow.Proofs.Capability.Segment
import Dataflow.Proofs.Capability.Substitution
import Dataflow.Proofs.Clock
import Dataflow.Proofs.Decimal.Digits
import Dataflow.Proofs.Decimal.Numeral
import Dataflow.Proofs.Decimal.Operations
import Dataflow.Proofs.Decimal.Order
import Dataflow.Proofs.Decimal.Rounding
import Dataflow.Proofs.Decimal.Value
import Dataflow.Proofs.Decode.Faults
import Dataflow.Proofs.Decode.Message
import Dataflow.Proofs.Decode.Record
import Dataflow.Proofs.Expr.Balance
import Dataflow.Proofs.Expr.Comparison
import Dataflow.Proofs.Expr.Division
import Dataflow.Proofs.Expr.Evaluation
import Dataflow.Proofs.Expr.Grammar
import Dataflow.Proofs.Expr.Literal
import Dataflow.Proofs.Expr.Nesting
import Dataflow.Proofs.Expr.Numbers
import Dataflow.Proofs.Expr.Offsets
import Dataflow.Proofs.Expr.Outermost
import Dataflow.Proofs.Expr.Precedence
import Dataflow.Proofs.Expr.Scan
import Dataflow.Proofs.Expr.Tree
import Dataflow.Proofs.Http.Addresses
import Dataflow.Proofs.Http.Guard
import Dataflow.Proofs.Http.HostText
import Dataflow.Proofs.Http.Requests
import Dataflow.Proofs.Json.Parts
import Dataflow.Proofs.Json.RoundTrip
import Dataflow.Proofs.Json.Scan
import Dataflow.Proofs.Keyed
import Dataflow.Proofs.Kinds.Decisions
import Dataflow.Proofs.Kinds.Numbering
import Dataflow.Proofs.Kinds.Scopes
import Dataflow.Proofs.Kinds.Transform
import Dataflow.Proofs.Order.Acyclic
import Dataflow.Proofs.Order.Blocked
import Dataflow.Proofs.Order.Canonical
import Dataflow.Proofs.Order.Queue
import Dataflow.Proofs.Order.Repeated
import Dataflow.Proofs.Order.Sorted
import Dataflow.Proofs.Order.Worklist
import Dataflow.Proofs.Path.Address
import Dataflow.Proofs.Path.Grammar
import Dataflow.Proofs.Path.Joining
import Dataflow.Proofs.Path.Keys
import Dataflow.Proofs.Path.Spelling
import Dataflow.Proofs.Results
import Dataflow.Proofs.Run.Attribution
import Dataflow.Proofs.Run.Calls
import Dataflow.Proofs.Run.Consistency
import Dataflow.Proofs.Run.Course
import Dataflow.Proofs.Run.Deadline
import Dataflow.Proofs.Run.Gathering
import Dataflow.Proofs.Run.Limit
import Dataflow.Proofs.Run.Outputs
import Dataflow.Proofs.Run.Overrun
import Dataflow.Proofs.Run.Rejection
import Dataflow.Proofs.Run.Relay
import Dataflow.Proofs.Run.Reordering
import Dataflow.Proofs.Run.Routing
import Dataflow.Proofs.Run.Samples
import Dataflow.Proofs.Run.Shapes
import Dataflow.Proofs.Run.SilentWiring
import Dataflow.Proofs.Run.Splitting
import Dataflow.Proofs.Run.Transcript
import Dataflow.Proofs.Run.Walk
import Dataflow.Proofs.Run.Wiring
import Dataflow.Proofs.Service.Recording
import Dataflow.Proofs.Template.Layout
import Dataflow.Proofs.Template.Values
import Dataflow.Proofs.Text.Characters
import Dataflow.Proofs.Text.Composed
import Dataflow.Proofs.Text.Pieces
import Dataflow.Proofs.Text.Trimming
import Dataflow.Proofs.Text.Utf8
import Dataflow.Proofs.Url.AddressText
import Dataflow.Proofs.Url.Block
import Dataflow.Proofs.Url.Domain
import Dataflow.Proofs.Url.Form
import Dataflow.Proofs.Url.HostAddress
import Dataflow.Proofs.Url.Literal
import Dataflow.Proofs.Url.Segments
import Dataflow.Proofs.Url.Spelling
import Dataflow.Proofs.Workflow.Edges
import Dataflow.Proofs.Workflow.Encode
import Dataflow.Proofs.Workflow.MissingField
import Dataflow.Proofs.Workflow.Plan
import Dataflow.Proofs.Workflow.Validity
import Dataflow.Proofs.Workflow.Warnings
import Dataflow.Proofs.Wrapping
import Dataflow.Proofs.Yaml.Quoting
import Dataflow.Proofs.Yaml.Records
