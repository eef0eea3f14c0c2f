import LoadPlan.Command.Help
import LoadPlan.Command.Run
import LoadPlan.Command.Usage
import LoadPlan.Fault
import LoadPlan.Files.Path
import LoadPlan.Files.Tree
import LoadPlan.Json.Reader
import LoadPlan.Lint.Check
import LoadPlan.Lint.File
import LoadPlan.Lint.Issue
import LoadPlan.Main
import LoadPlan.Notice
import LoadPlan.Number.Binary64
import LoadPlan.Number.Order
import LoadPlan.Number.Reader
import LoadPlan.Number.Shortest
import LoadPlan.Plan.Assembly
import LoadPlan.Plan.Compile
import LoadPlan.Plan.Element
import LoadPlan.Plan.Endpoint
import LoadPlan.Plan.Generate
import LoadPlan.Plan.Parts
import LoadPlan.Plan.Review
import LoadPlan.Plan.Stats
import LoadPlan.Proofs.Lint.Agreement
import LoadPlan.Proofs.Lint.Findings
import LoadPlan.Proofs.Lint.Silence
import LoadPlan.Proofs.Notice
import LoadPlan.Proofs.Plan.Compiled
import LoadPlan.Proofs.Plan.Defects
import LoadPlan.Proofs.Plan.Elements
import LoadPlan.Proofs.Plan.Parts
import LoadPlan.Proofs.Plan.ReadBack
import LoadPlan.Proofs.Plan.Rendering
import LoadPlan.Proofs.Plan.Review
import LoadPlan.Proofs.Plan.SamplerPath
import LoadPlan.Proofs.Plan.Shape
import LoadPlan.Proofs.Plan.Sound
import LoadPlan.Proofs.Plan.TestStrings
import LoadPlan.Proofs.Plan.Wording
import LoadPlan.Proofs.Scenario.Built
import LoadPlan.Proofs.Settings
import LoadPlan.Proofs.Text.Utf8
import LoadPlan.Proofs.Xml.Document
import LoadPlan.Proofs.Xml.Layout
import LoadPlan.Proofs.Xml.Lookup
import LoadPlan.Proofs.Xml.Normal
import LoadPlan.Proofs.Xml.Pieces
import LoadPlan.Proofs.Xml.Reading
import LoadPlan.Proofs.Xml.Tags
import LoadPlan.Proofs.Xml.Values
import LoadPlan.Proofs.Xml.Written
import LoadPlan.Scenario.Basic
import LoadPlan.Scenario.Loaded
import LoadPlan.Scenario.Options
import LoadPlan.Scenario.Schema
import LoadPlan.Settings
import LoadPlan.Text.Blank
import LoadPlan.Text.Compatibility
import LoadPlan.Text.Digit
import LoadPlan.Text.Lines
import LoadPlan.Text.Lowercase
import LoadPlan.Text.Printable
import LoadPlan.Text.Quoted
import LoadPlan.Text.Ranges
import LoadPlan.Text.Terminal
import LoadPlan.Text.Units
import LoadPlan.Text.Utf8
import LoadPlan.Url.Basic
import LoadPlan.Url.Host
import LoadPlan.Value.Basic
import LoadPlan.Value.Order
import LoadPlan.Value.Printer
import LoadPlan.Workspace.Draft
import LoadPlan.Workspace.Heap
import LoadPlan.Workspace.Reading
import LoadPlan.Workspace.Session
import LoadPlan.Workspace.View
import LoadPlan.Xml.Chars
import LoadPlan.Xml.Declaration
import LoadPlan.Xml.Doctype
import LoadPlan.Xml.Encoding
import LoadPlan.Xml.Node
import LoadPlan.Xml.Printer
import LoadPlan.Xml.Problem
import LoadPlan.Xml.Prolog
import LoadPlan.Xml.Reader
import LoadPlan.Xml.Token
import LoadPlan.Yaml.Block
import LoadPlan.Yaml.Cursor
import LoadPlan.Yaml.Layout
import LoadPlan.Yaml.Node
import LoadPlan.Yaml.Plain
import LoadPlan.Yaml.Quoted
import LoadPlan.Yaml.Reader
import LoadPlan.Yaml.Tag
import LoadPlan.Yaml.Timestamp
import LoadPlan.Yaml.Token
import LoadPlan.Proofs.Plan.Faults
import LoadPlan.Proofs.Scenario.Grammar
import LoadPlan.Proofs.Files.Place
import LoadPlan.Proofs.Files.Write
import LoadPlan.Proofs.Plan.Generate
import LoadPlan.Proofs.Plan.Counts
import LoadPlan.Proofs.Scenario.Load
import LoadPlan.Proofs.Lint.Checkable
import LoadPlan.Proofs.Lint.Reports
import LoadPlan.Proofs.Plan.Structure
import LoadPlan.Proofs.Plan.Load
import LoadPlan.Proofs.Files.Spelling
import LoadPlan.Proofs.Command.Line
import LoadPlan.Proofs.Command.Generate
import LoadPlan.Proofs.Command.Beside
import LoadPlan.Proofs.Scenario.Described
import LoadPlan.Proofs.Plan.Display
import LoadPlan.Proofs.Lint.UrlWarnings
import LoadPlan.Proofs.Number.Decimal
import LoadPlan.Proofs.Url.Characters
import LoadPlan.Proofs.Url.Parts
import LoadPlan.Proofs.Plan.Advice
import LoadPlan.Proofs.Xml.Change
import LoadPlan.Proofs.Plan.CompactReview
import LoadPlan.Proofs.Plan.PartDefects
import LoadPlan.Proofs.Plan.Edits
import LoadPlan.Proofs.Plan.EditedParts
import LoadPlan.Proofs.Plan.EditedRoot
import LoadPlan.Proofs.Plan.SingleDefect
import LoadPlan.Proofs.Lint.QueryNotice
import LoadPlan.Proofs.Scenario.Ids
import LoadPlan.Proofs.Scenario.Rebuilt
import LoadPlan.Proofs.Settings.Nulls
import LoadPlan.Proofs.Settings.Outcomes
import LoadPlan.Proofs.Settings.Overrides
import LoadPlan.Proofs.Plan.Answers
import LoadPlan.Proofs.Text.Hash
import LoadPlan.Proofs.Lint.Warnings
import LoadPlan.Proofs.Command.Validate
import LoadPlan.Proofs.Workspace.Build
import LoadPlan.Proofs.Workspace.Reading
import LoadPlan.Proofs.Plan.Entities
import LoadPlan.Proofs.Plan.Pairing
import LoadPlan.Proofs.Scenario.Names
