import Outline.Arguments
import Outline.Column
import Outline.Command
import Outline.Document
import Outline.Document.Shape
import Outline.Editing
import Outline.Environment
import Outline.Event
import Outline.Expansion
import Outline.Files
import Outline.Json.Fault
import Outline.Json.Number
import Outline.Json.Reader
import Outline.Json.Text
import Outline.Json.Value
import Outline.Json.Writer
import Outline.Layout
import Outline.Layout.Words
import Outline.Listeners
import Outline.Log
import Outline.Log.Filter
import Outline.Log.Sink
import Outline.Main
import Outline.Node
import Outline.Node.Describe
import Outline.Node.Memory
import Outline.Node.Written
import Outline.Number.Binary64
import Outline.Number.Shortest
import Outline.Path
import Outline.Query
import Outline.Row
import Outline.Run
import Outline.Settings
import Outline.Settings.File
import Outline.Source
import Outline.Table
import Outline.Text.Alphanumeric
import Outline.Text.Natural
import Outline.Text.Quoted
import Outline.Text.Quoted.Tables
import Outline.Text.Ranges
import Outline.Text.Width
import Outline.Text.Width.Tables
import Outline.Toml.Reader
import Outline.Toml.Scalar
import Outline.Toml.Table
import Outline.Toml.Text
import Outline.Toml.Value
import Outline.View
import Outline.Proofs.Block
import Outline.Proofs.Commutation
import Outline.Proofs.Decoding
import Outline.Proofs.Document.Appended
import Outline.Proofs.Document.Denotation
import Outline.Proofs.Document.Exchange
import Outline.Proofs.Document.Language
import Outline.Proofs.Document.NoToml
import Outline.Proofs.Document.Placement
import Outline.Proofs.Document.RoundTrip
import Outline.Proofs.Document.Shape
import Outline.Proofs.EditBinding
import Outline.Proofs.EditFate
import Outline.Proofs.EditSurvival
import Outline.Proofs.ExpandAll
import Outline.Proofs.ExpandNamed
import Outline.Proofs.Expansion
import Outline.Proofs.ExpansionHistory
import Outline.Proofs.Files
import Outline.Proofs.Files.Growth
import Outline.Proofs.FindRow
import Outline.Proofs.Json.Extension
import Outline.Proofs.Json.Nesting
import Outline.Proofs.Json.RoundTrip
import Outline.Proofs.Json.Text
import Outline.Proofs.Json.Token
import Outline.Proofs.Json.Value
import Outline.Proofs.Layout.Alignment
import Outline.Proofs.Layout.Limits
import Outline.Proofs.Layout.Reading
import Outline.Proofs.Members
import Outline.Proofs.Monotonicity
import Outline.Proofs.Node
import Outline.Proofs.Node.Memory
import Outline.Proofs.Node.Position
import Outline.Proofs.Node.Written
import Outline.Proofs.Notification
import Outline.Proofs.Path
import Outline.Proofs.Path.Components
import Outline.Proofs.Reachable
import Outline.Proofs.Rebuilding
import Outline.Proofs.Refusal
import Outline.Proofs.Row
import Outline.Proofs.Run.Exchange
import Outline.Proofs.Run.Growth
import Outline.Proofs.Run.Report
import Outline.Proofs.Run.Session
import Outline.Proofs.Run.Table
import Outline.Proofs.Script
import Outline.Proofs.Separation
import Outline.Proofs.Settings.File
import Outline.Proofs.Settings.Resolution
import Outline.Proofs.Splice
import Outline.Proofs.Stepping
import Outline.Proofs.Text.Natural
import Outline.Proofs.Text.Width
import Outline.Proofs.Toggle
import Outline.Proofs.Toml.Keys
import Outline.Proofs.Visibility
