import FlowBlocks.Batch
import FlowBlocks.BlockFlow.Basic
import FlowBlocks.BlockFlow.Build
import FlowBlocks.BlockFlow.Fault
import FlowBlocks.BlockFlow.Traced
import FlowBlocks.BlockFlow.Verify
import FlowBlocks.Bytes
import FlowBlocks.Choice
import FlowBlocks.Cli.Arguments
import FlowBlocks.Cli.Options
import FlowBlocks.Cli.Run
import FlowBlocks.Cli.Session
import FlowBlocks.Cli.Tally
import FlowBlocks.Decimal.Fixed
import FlowBlocks.Decimal.Integer
import FlowBlocks.Digest
import FlowBlocks.Disk
import FlowBlocks.FlowGraph
import FlowBlocks.FlowGraph.Held
import FlowBlocks.Leaders
import FlowBlocks.Listing.Body
import FlowBlocks.Listing.Instr
import FlowBlocks.Listing.Parse
import FlowBlocks.Listing.Print
import FlowBlocks.Main
import FlowBlocks.Outline.Basic
import FlowBlocks.Outline.Check
import FlowBlocks.Path
import FlowBlocks.Record.Basic
import FlowBlocks.Record.Decode
import FlowBlocks.Record.Encode
import FlowBlocks.Release
import FlowBlocks.Report.Dump
import FlowBlocks.Report.Paint
import FlowBlocks.Report.Table
import FlowBlocks.Settings
import FlowBlocks.Stopwatch
import FlowBlocks.Store
import FlowBlocks.Text.Blank
import FlowBlocks.Text.Canonical
import FlowBlocks.Text.Canonical.Class
import FlowBlocks.Text.Canonical.Mapping
import FlowBlocks.Text.Canonical.Marks
import FlowBlocks.Text.Cluster
import FlowBlocks.Text.Cluster.Break
import FlowBlocks.Text.Column
import FlowBlocks.Text.Column.Shown
import FlowBlocks.Text.Column.Table
import FlowBlocks.Text.Fold
import FlowBlocks.Text.JsonText
import FlowBlocks.Text.Letter
import FlowBlocks.Text.Printable
import FlowBlocks.Text.Quoted
import FlowBlocks.Text.Rune
import FlowBlocks.Toml.Basic
import FlowBlocks.Toml.Document
import FlowBlocks.Toml.Parse
import FlowBlocks.Toml.Quoted
import FlowBlocks.Toml.Scalar
import FlowBlocks.Trace.Event
import FlowBlocks.Trace.Render
import FlowBlocks.Trace.Ring
import FlowBlocks.Trace.Setup
import FlowBlocks.Trace.Sink
import FlowBlocks.Trace.Span
import FlowBlocks.Trace.Stamp
import FlowBlocks.Writer
import FlowBlocks.Proofs.Bytes
import FlowBlocks.Proofs.Text.Runes
import FlowBlocks.Proofs.BlockFlow.Partition
import FlowBlocks.Proofs.BlockFlow.Wiring
import FlowBlocks.Proofs.BlockFlow.Built
import FlowBlocks.Proofs.Disk
import FlowBlocks.Proofs.Trace.Log
import FlowBlocks.Proofs.Trace
import FlowBlocks.Proofs.BlockFlow.Traced
import FlowBlocks.Proofs.BlockFlow.Cut
import FlowBlocks.Proofs.BlockFlow.Verdict
import FlowBlocks.Proofs.Listing.Sound
import FlowBlocks.Proofs.FlowGraph.Regular
import FlowBlocks.Proofs.FlowGraph.Extension
import FlowBlocks.Proofs.Leaders
import FlowBlocks.Proofs.BlockFlow.Construct
import FlowBlocks.Proofs.BlockFlow.Edges
import FlowBlocks.Proofs.BlockFlow.Reach
import FlowBlocks.Proofs.BlockFlow.Kinds
import FlowBlocks.Proofs.Record.RoundTrip
import FlowBlocks.Proofs.Store
import FlowBlocks.Proofs.Path
import FlowBlocks.Proofs.Disk.Tree
import FlowBlocks.Proofs.Store.Effects
import FlowBlocks.Proofs.Store.Spared
import FlowBlocks.Proofs.Listing.Drafts
import FlowBlocks.Proofs.Listing.Spaced
import FlowBlocks.Proofs.Listing.Compose
import FlowBlocks.Proofs.Batch.Results
import FlowBlocks.Proofs.Batch.History
import FlowBlocks.Proofs.Batch.Shown
import FlowBlocks.Proofs.Batch.Transparency
import FlowBlocks.Proofs.Trace.Ring
import FlowBlocks.Proofs.Trace.Brackets
import FlowBlocks.Proofs.Batch.Brackets
import FlowBlocks.Proofs.Record.Canonical
import FlowBlocks.Proofs.Record.Torn
import FlowBlocks.Proofs.Store.Calls
import FlowBlocks.Proofs.Outline.Abridged
import FlowBlocks.Proofs.Outline.Cover
import FlowBlocks.Proofs.Outline.Faithful
import FlowBlocks.Proofs.Batch.Reads
import FlowBlocks.Proofs.Batch.Steps
import FlowBlocks.Proofs.Batch.Repair
import FlowBlocks.Proofs.Outline.Symmetry
import FlowBlocks.Proofs.Text.Blanks
import FlowBlocks.Proofs.Text.Columns
import FlowBlocks.Proofs.Report.Dump
import FlowBlocks.Proofs.Cli.Tally
import FlowBlocks.Proofs.Cli.Commands
import FlowBlocks.Proofs.Text.Composed
import FlowBlocks.Proofs.Listing.Legible
import FlowBlocks.Proofs.Listing.Printed
import FlowBlocks.Proofs.BlockFlow.Entry
import FlowBlocks.Proofs.BlockFlow.Faults
import FlowBlocks.Proofs.Listing.Origins
import FlowBlocks.Proofs.Listing.Recast
import FlowBlocks.Proofs.Text.Layout
import FlowBlocks.Proofs.Listing.Spellings
import FlowBlocks.Proofs.Listing.Respelling
import FlowBlocks.Proofs.Leaders.Compared
import FlowBlocks.Proofs.BlockFlow.Straight
import FlowBlocks.Proofs.BlockFlow.Ends
import FlowBlocks.Proofs.BlockFlow.Successors
import FlowBlocks.Proofs.Listing.WellFormed
import FlowBlocks.Proofs.Trace.Told
import FlowBlocks.Proofs.Trace.Levels
import FlowBlocks.Proofs.Trace.Agreement
import FlowBlocks.Proofs.FlowGraph.Adjacency
import FlowBlocks.Proofs.Batch.Keys
