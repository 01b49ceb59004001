import ThemeForge.Command.Call
import ThemeForge.Command.Line
import ThemeForge.Command.Run
import ThemeForge.Console.Basic
import ThemeForge.Console.Line
import ThemeForge.Console.Table
import ThemeForge.Console.Terminal
import ThemeForge.Failure.Basic
import ThemeForge.Failure.Crash
import ThemeForge.Failure.Family
import ThemeForge.FileName.Device
import ThemeForge.FileName.Legal
import ThemeForge.FileName.Replacement
import ThemeForge.FileName.Stem
import ThemeForge.Files.Change
import ThemeForge.Files.Create
import ThemeForge.Files.Path
import ThemeForge.Files.Tree
import ThemeForge.Json.Carried
import ThemeForge.Json.Reader
import ThemeForge.Json.StringBody
import ThemeForge.Log.Record
import ThemeForge.Log.Root
import ThemeForge.Main
import ThemeForge.Number.Double
import ThemeForge.Number.Numeral
import ThemeForge.Number.Shortest
import ThemeForge.Platform
import ThemeForge.Proofs.Command.Details
import ThemeForge.Proofs.Command.Effect
import ThemeForge.Proofs.Command.Failing
import ThemeForge.Proofs.Command.Outcome
import ThemeForge.Proofs.Command.Preview
import ThemeForge.Proofs.Command.Startup
import ThemeForge.Proofs.Command.Steps
import ThemeForge.Proofs.Console.Line
import ThemeForge.Proofs.Except
import ThemeForge.Proofs.FileName.Projection
import ThemeForge.Proofs.FileName.Replacement
import ThemeForge.Proofs.FileName.Stem
import ThemeForge.Proofs.FileName.Truncation
import ThemeForge.Proofs.Files.Create
import ThemeForge.Proofs.Files.Listing
import ThemeForge.Proofs.Files.Name
import ThemeForge.Proofs.Files.Path
import ThemeForge.Proofs.Files.Stamp
import ThemeForge.Proofs.Files.Tree
import ThemeForge.Proofs.Json.Carried
import ThemeForge.Proofs.Json.Literal
import ThemeForge.Proofs.Json.Reader
import ThemeForge.Proofs.Json.StringBody
import ThemeForge.Proofs.Log.Events
import ThemeForge.Proofs.Log.SetUp
import ThemeForge.Proofs.Schema.Checked
import ThemeForge.Proofs.Settings.Projection
import ThemeForge.Proofs.Template.Bundled
import ThemeForge.Proofs.Template.Caching
import ThemeForge.Proofs.Template.Listing
import ThemeForge.Proofs.Template.Sorted
import ThemeForge.Proofs.Template.Store
import ThemeForge.Proofs.Text.Blank
import ThemeForge.Proofs.Text.Escaped
import ThemeForge.Proofs.Text.Split
import ThemeForge.Proofs.Text.Utf8
import ThemeForge.Proofs.Theme.Document
import ThemeForge.Proofs.Theme.Fault
import ThemeForge.Proofs.Theme.Generator
import ThemeForge.Proofs.Theme.Padding
import ThemeForge.Proofs.Theme.Performing
import ThemeForge.Proofs.Theme.Plan
import ThemeForge.Proofs.Theme.Prompt
import ThemeForge.Proofs.Theme.Turn
import ThemeForge.Proofs.Value.Mapping
import ThemeForge.Proofs.World.Configuration
import ThemeForge.Proofs.World.Confinement
import ThemeForge.Proofs.World.Creation
import ThemeForge.Proofs.World.Override
import ThemeForge.Proofs.World.Quiet
import ThemeForge.Proofs.World.Run
import ThemeForge.Proofs.World.Snapshot
import ThemeForge.Proofs.World.Steps
import ThemeForge.Schema.Checked
import ThemeForge.Schema.Coercion
import ThemeForge.Schema.Record
import ThemeForge.Session.Basic
import ThemeForge.Settings.Basic
import ThemeForge.Settings.Format
import ThemeForge.Settings.Variables
import ThemeForge.Template.Engine
import ThemeForge.Template.Evaluation
import ThemeForge.Template.Expansion
import ThemeForge.Template.Fault
import ThemeForge.Template.Filter
import ThemeForge.Template.Lexer
import ThemeForge.Template.Operand
import ThemeForge.Template.Operation
import ThemeForge.Template.Reader
import ThemeForge.Template.RenderFault
import ThemeForge.Template.Store
import ThemeForge.Template.Token
import ThemeForge.Template.Tree
import ThemeForge.Text.Base64
import ThemeForge.Text.Blank
import ThemeForge.Text.Case
import ThemeForge.Text.CaseTable
import ThemeForge.Text.Code
import ThemeForge.Text.Identifier
import ThemeForge.Text.IdentifierTable
import ThemeForge.Text.PrintableTable
import ThemeForge.Text.Quoted
import ThemeForge.Text.Utf8
import ThemeForge.Text.Width
import ThemeForge.Text.WidthTable
import ThemeForge.Theme.Action
import ThemeForge.Theme.Generator
import ThemeForge.Theme.Prompt
import ThemeForge.Theme.Request
import ThemeForge.Value.Basic
import ThemeForge.Value.Calendar
import ThemeForge.Value.Placeholder
import ThemeForge.Value.Printer
import ThemeForge.World.Basic
import ThemeForge.World.Configuration
import ThemeForge.World.Rendering
import ThemeForge.Yaml.Cursor
import ThemeForge.Yaml.Fault
import ThemeForge.Yaml.Lexer
import ThemeForge.Yaml.Node
import ThemeForge.Yaml.Scalar
import ThemeForge.Yaml.Tag
import ThemeForge.Yaml.Token
import ThemeForge.Yaml.Value
