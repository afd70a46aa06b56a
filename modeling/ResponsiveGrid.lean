import ResponsiveGrid.Command.Directory
import ResponsiveGrid.Command.Fault
import ResponsiveGrid.Command.Invocation
import ResponsiveGrid.Command.Line
import ResponsiveGrid.Command.Run
import ResponsiveGrid.Config
import ResponsiveGrid.Decimal.Binary64
import ResponsiveGrid.Decimal.Layout
import ResponsiveGrid.Decimal.Reading
import ResponsiveGrid.Decimal.Rounding
import ResponsiveGrid.Decimal.Shortest
import ResponsiveGrid.Entry
import ResponsiveGrid.Fault
import ResponsiveGrid.Grid.Basic
import ResponsiveGrid.Grid.Edit
import ResponsiveGrid.Json.Fault
import ResponsiveGrid.Json.Lexeme
import ResponsiveGrid.Json.Outline
import ResponsiveGrid.Json.Shape
import ResponsiveGrid.Json.Value
import ResponsiveGrid.Layout
import ResponsiveGrid.LogFilter
import ResponsiveGrid.Main
import ResponsiveGrid.Pattern.Basic
import ResponsiveGrid.Pattern.Check
import ResponsiveGrid.Pattern.Reading
import ResponsiveGrid.Proofs.Bounds
import ResponsiveGrid.Proofs.Command.Directory
import ResponsiveGrid.Proofs.Command.Effects
import ResponsiveGrid.Proofs.Command.Line
import ResponsiveGrid.Proofs.Command.Printed
import ResponsiveGrid.Proofs.Command.Table
import ResponsiveGrid.Proofs.Decimal.Division
import ResponsiveGrid.Proofs.Decimal.Numeral
import ResponsiveGrid.Proofs.Decimal.Quotient
import ResponsiveGrid.Proofs.Decimal.Reread
import ResponsiveGrid.Proofs.Decimal.Scale
import ResponsiveGrid.Proofs.Decimal.Shortest
import ResponsiveGrid.Proofs.Decimal.Text
import ResponsiveGrid.Proofs.Grid.Acceptance
import ResponsiveGrid.Proofs.Grid.Addition
import ResponsiveGrid.Proofs.Grid.Adjustment
import ResponsiveGrid.Proofs.Grid.Boundary
import ResponsiveGrid.Proofs.Grid.Content
import ResponsiveGrid.Proofs.Grid.Edit
import ResponsiveGrid.Proofs.Grid.Independence
import ResponsiveGrid.Proofs.Grid.Loading
import ResponsiveGrid.Proofs.Grid.Neighbours
import ResponsiveGrid.Proofs.Grid.Outcome
import ResponsiveGrid.Proofs.Grid.Partition
import ResponsiveGrid.Proofs.Grid.Reload
import ResponsiveGrid.Proofs.Grid.Removal
import ResponsiveGrid.Proofs.Grid.Replay
import ResponsiveGrid.Proofs.Grid.Session
import ResponsiveGrid.Proofs.Grid.Splice
import ResponsiveGrid.Proofs.Grid.Update
import ResponsiveGrid.Proofs.Json.Alternatives
import ResponsiveGrid.Proofs.Json.Reading
import ResponsiveGrid.Proofs.Json.Stored
import ResponsiveGrid.Proofs.Json.Written
import ResponsiveGrid.Proofs.Layout
import ResponsiveGrid.Proofs.Machine.Edit
import ResponsiveGrid.Proofs.Machine.Layout
import ResponsiveGrid.Proofs.Machine.Session
import ResponsiveGrid.Proofs.Machine.Word
import ResponsiveGrid.Proofs.Query.Escape
import ResponsiveGrid.Proofs.Query.Form
import ResponsiveGrid.Proofs.Query.Sequence
import ResponsiveGrid.Proofs.Query.Store
import ResponsiveGrid.Proofs.Stylesheet.Cascade
import ResponsiveGrid.Proofs.Stylesheet.Compression
import ResponsiveGrid.Proofs.Stylesheet.Determined
import ResponsiveGrid.Proofs.Stylesheet.Keys
import ResponsiveGrid.Proofs.Stylesheet.Layers
import ResponsiveGrid.Proofs.Stylesheet.Lines
import ResponsiveGrid.Proofs.Stylesheet.Loops
import ResponsiveGrid.Proofs.Stylesheet.Meaning
import ResponsiveGrid.Proofs.Stylesheet.Names
import ResponsiveGrid.Proofs.Stylesheet.Nesting
import ResponsiveGrid.Proofs.Stylesheet.Printing
import ResponsiveGrid.Proofs.Stylesheet.Rules
import ResponsiveGrid.Proofs.Stylesheet.Runs
import ResponsiveGrid.Proofs.Stylesheet.Scope
import ResponsiveGrid.Proofs.Stylesheet.Values
import ResponsiveGrid.Proofs.Text.Parts
import ResponsiveGrid.Proofs.Text.Utf8
import ResponsiveGrid.Proofs.Wire
import ResponsiveGrid.Proofs.Wire.Layout
import ResponsiveGrid.Query.Form
import ResponsiveGrid.Query.Store
import ResponsiveGrid.Settings
import ResponsiveGrid.Snapshot
import ResponsiveGrid.Stylesheet.Build
import ResponsiveGrid.Stylesheet.Node
import ResponsiveGrid.Stylesheet.Track
import ResponsiveGrid.Text.Blank
import ResponsiveGrid.Text.Parts
import ResponsiveGrid.Text.Reading
import ResponsiveGrid.Text.Shown
import ResponsiveGrid.Text.Utf8
import ResponsiveGrid.Text.Word
import ResponsiveGrid.Toml.Document
import ResponsiveGrid.Toml.Lexeme
import ResponsiveGrid.Toml.Value
import ResponsiveGrid.Unit
import ResponsiveGrid.Vocabulary
import ResponsiveGrid.WidthRange
import ResponsiveGrid.Wire
import ResponsiveGrid.Word
