import Stencil.Artifact.Basic
import Stencil.Artifact.Text
import Stencil.Cache
import Stencil.Cache.Directory
import Stencil.CommandLine.Arguments
import Stencil.CommandLine.Command
import Stencil.CommandLine.Run
import Stencil.Compiler
import Stencil.Decimal.Binary
import Stencil.Decimal.Layout
import Stencil.Decimal.Numeral
import Stencil.Decimal.Shortest
import Stencil.Digest
import Stencil.Directive
import Stencil.Disk
import Stencil.Engine
import Stencil.Error
import Stencil.Escaper
import Stencil.Evaluation
import Stencil.Expr.Basic
import Stencil.Expr.Header
import Stencil.Expr.Reader
import Stencil.Files
import Stencil.Filter.Basic
import Stencil.Filter.Core
import Stencil.Filter.Number
import Stencil.Filter.Text
import Stencil.Json.Basic
import Stencil.Json.Reader
import Stencil.Json.Record
import Stencil.Json.Skip
import Stencil.Json.Spelling
import Stencil.Json.Writer
import Stencil.Loader
import Stencil.Loop
import Stencil.Main
import Stencil.Moment.Basic
import Stencil.Moment.Calendar
import Stencil.Moment.Format
import Stencil.Moment.Pattern
import Stencil.Moment.Reader
import Stencil.Node.Basic
import Stencil.Node.Cursor
import Stencil.Node.Visitor
import Stencil.Options
import Stencil.Program
import Stencil.Proofs.Artifact.RoundTrip
import Stencil.Proofs.Cache.Filed
import Stencil.Proofs.Cache.Healthy
import Stencil.Proofs.Cache.Kept
import Stencil.Proofs.Cache.Places
import Stencil.Proofs.Cache.Refinement
import Stencil.Proofs.Compiler.Instructions
import Stencil.Proofs.Compiler.Lines
import Stencil.Proofs.Compiler.Markup
import Stencil.Proofs.Compiler.RoundTrip
import Stencil.Proofs.Compiler.Separation
import Stencil.Proofs.Compiler.Tags
import Stencil.Proofs.Compiler.Visitors
import Stencil.Proofs.Decimal.Integers
import Stencil.Proofs.Decimal.Places
import Stencil.Proofs.Disk.Changes
import Stencil.Proofs.Disk.Paths
import Stencil.Proofs.Engine.Asked
import Stencil.Proofs.Engine.Closure
import Stencil.Proofs.Engine.Coherence
import Stencil.Proofs.Engine.Covering
import Stencil.Proofs.Engine.Healing
import Stencil.Proofs.Engine.Health
import Stencil.Proofs.Engine.Markup
import Stencil.Proofs.Engine.Separate
import Stencil.Proofs.Engine.Settled
import Stencil.Proofs.Engine.Transparency
import Stencil.Proofs.Engine.Work
import Stencil.Proofs.Escaper.Entities
import Stencil.Proofs.Escaper.Script
import Stencil.Proofs.Expr.Bindings
import Stencil.Proofs.Expr.Groups
import Stencil.Proofs.Expr.Headers
import Stencil.Proofs.Expr.Printer
import Stencil.Proofs.Expr.RoundTrip
import Stencil.Proofs.Expr.Trailing
import Stencil.Proofs.Filter.Commas
import Stencil.Proofs.Filter.Dates
import Stencil.Proofs.Filter.Doubles
import Stencil.Proofs.Filter.Grouping
import Stencil.Proofs.Filter.Slicing
import Stencil.Proofs.Filter.Sorting
import Stencil.Proofs.Filter.Stripping
import Stencil.Proofs.Json.Leaves
import Stencil.Proofs.Json.RoundTrip
import Stencil.Proofs.Json.Values
import Stencil.Proofs.Node.Calls
import Stencil.Proofs.Node.Reading
import Stencil.Proofs.Node.Visits
import Stencil.Proofs.Program.BlockTable
import Stencil.Proofs.Program.Blocks
import Stencil.Proofs.Program.Emission
import Stencil.Proofs.Program.NormalForm
import Stencil.Proofs.Program.Order
import Stencil.Proofs.Program.Pairing
import Stencil.Proofs.Rendering.Circularity
import Stencil.Proofs.Rendering.Comparison
import Stencil.Proofs.Rendering.Failure
import Stencil.Proofs.Rendering.Harmless
import Stencil.Proofs.Rendering.Inheritance
import Stencil.Proofs.Rendering.Insertion
import Stencil.Proofs.Rendering.Layers
import Stencil.Proofs.Rendering.Loaded
import Stencil.Proofs.Rendering.Loops
import Stencil.Proofs.Rendering.Plan
import Stencil.Proofs.Rendering.Provenance
import Stencil.Proofs.Rendering.Ranges
import Stencil.Proofs.Rendering.Relevance
import Stencil.Proofs.Rendering.Repetition
import Stencil.Proofs.Rendering.SingleBlock
import Stencil.Proofs.Rendering.Strictness
import Stencil.Proofs.Rendering.Supplied
import Stencil.Proofs.Rendering.Termination
import Stencil.Proofs.Report.Lines
import Stencil.Proofs.Report.Sources
import Stencil.Proofs.Scope
import Stencil.Proofs.Statement
import Stencil.Proofs.Text.Percent
import Stencil.Proofs.Token.Cutting
import Stencil.Proofs.Token.Joining
import Stencil.Proofs.Token.Segments
import Stencil.Renderer
import Stencil.Report
import Stencil.Report.Excerpt
import Stencil.Report.Location
import Stencil.Scope
import Stencil.Table
import Stencil.Text.Blank
import Stencil.Text.Bytes
import Stencil.Text.Case
import Stencil.Text.Find
import Stencil.Text.Letter
import Stencil.Text.Quoted
import Stencil.Text.Ranges
import Stencil.Text.Width
import Stencil.Token.Basic
import Stencil.Token.Scan
import Stencil.Value
