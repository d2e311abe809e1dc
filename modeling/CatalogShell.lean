import CatalogShell.Catalog.RelationKind
import CatalogShell.Catalog.Resolve
import CatalogShell.Command.Builtin
import CatalogShell.Command.Dispatch
import CatalogShell.Command.Line
import CatalogShell.Command.Registry
import CatalogShell.Command.Result
import CatalogShell.Connection.Address
import CatalogShell.Connection.Basic
import CatalogShell.Connection.Keywords
import CatalogShell.Connection.Parameter
import CatalogShell.Connection.Reader
import CatalogShell.Connection.Url
import CatalogShell.Decimal.Binary64
import CatalogShell.Decimal.Layout
import CatalogShell.Decimal.Shortest
import CatalogShell.Describe.Columns
import CatalogShell.Describe.Relation
import CatalogShell.Describe.SectionQuery
import CatalogShell.Describe.Sections
import CatalogShell.Describe.TableInfo
import CatalogShell.Failure
import CatalogShell.Inquiry
import CatalogShell.Json.Basic
import CatalogShell.Json.Number
import CatalogShell.Json.Reader
import CatalogShell.Listing.Cluster
import CatalogShell.Listing.Extensions
import CatalogShell.Listing.Filter
import CatalogShell.Listing.Functions
import CatalogShell.Listing.Relations
import CatalogShell.Listing.Schemas
import CatalogShell.Listing.Types
import CatalogShell.Main
import CatalogShell.Pattern.Basic
import CatalogShell.Pattern.Matcher
import CatalogShell.Proofs.Command.Abandon
import CatalogShell.Proofs.Command.Registered
import CatalogShell.Proofs.Describe.Parts
import CatalogShell.Proofs.Describe.Plan
import CatalogShell.Proofs.Inquiry.Asks
import CatalogShell.Proofs.Inquiry.GivesUp
import CatalogShell.Proofs.Inquiry.MayReturn
import CatalogShell.Proofs.Listing.Binds
import CatalogShell.Proofs.Listing.SameText
import CatalogShell.Proofs.Listing.Template
import CatalogShell.Proofs.Pattern.Glob
import CatalogShell.Proofs.Pattern.Glyphs
import CatalogShell.Proofs.Pattern.Matcher
import CatalogShell.Proofs.Query.Build
import CatalogShell.Proofs.Query.Mention
import CatalogShell.Proofs.Regex.Matches
import CatalogShell.Proofs.Regex.Sequence
import CatalogShell.Proofs.Session.Exchange
import CatalogShell.Proofs.Session.Memoryless
import CatalogShell.Proofs.Session.Turn
import CatalogShell.Proofs.Value.Row
import CatalogShell.Query
import CatalogShell.Regex.Basic
import CatalogShell.Regex.Reader
import CatalogShell.Render.Format
import CatalogShell.Render.Grid
import CatalogShell.Render.Report
import CatalogShell.Render.Result
import CatalogShell.Report.Basic
import CatalogShell.Report.Firing
import CatalogShell.Report.Footer
import CatalogShell.Report.Json
import CatalogShell.Script
import CatalogShell.Session
import CatalogShell.Settings.Basic
import CatalogShell.Settings.File
import CatalogShell.Shell.Arguments
import CatalogShell.Shell.Loop
import CatalogShell.Shell.Program
import CatalogShell.Shell.Run
import CatalogShell.Text.Blank
import CatalogShell.Text.Digit
import CatalogShell.Text.Identifier
import CatalogShell.Text.LetterCase
import CatalogShell.Text.Numbered
import CatalogShell.Text.Percent
import CatalogShell.Text.Search
import CatalogShell.Text.Utf8
import CatalogShell.Text.WordChar
import CatalogShell.Toml.Basic
import CatalogShell.Toml.Lexeme
import CatalogShell.Toml.Moment
import CatalogShell.Toml.Number
import CatalogShell.Toml.Reader
import CatalogShell.Toml.Value
import CatalogShell.Value.Basic
import CatalogShell.Value.Json
import CatalogShell.Value.Row
import CatalogShell.Wire.Cell
import CatalogShell.Wire.Integer
import CatalogShell.Wire.Server
import CatalogShell.Wire.TextArray
import CatalogShell.Wire.TypeName
import CatalogShell.Proofs.Describe.Footer
import CatalogShell.Proofs.Describe.Verbosity
import CatalogShell.Proofs.Describe.Explained
import CatalogShell.Proofs.Describe.Cells
import CatalogShell.Proofs.Session.Batch
import CatalogShell.Proofs.Catalog.Resolve
import CatalogShell.Proofs.Command.DescribeBatch
import CatalogShell.Proofs.Command.Line
import CatalogShell.Proofs.Command.Dispatch
import CatalogShell.Proofs.Command.History
import CatalogShell.Proofs.Inquiry.BestEffort
import CatalogShell.Proofs.Describe.BestEffort
import CatalogShell.Proofs.Regex.GroupEnd
import CatalogShell.Proofs.Regex.Bracket
import CatalogShell.Proofs.Regex.Enclosed
import CatalogShell.Proofs.Pattern.Anchored
import CatalogShell.Proofs.Pattern.OpenQuote
import CatalogShell.Proofs.Pattern.Qualified
import CatalogShell.Proofs.Pattern.Identifier
import CatalogShell.Proofs.Command.StrictMode
import CatalogShell.Proofs.Settings.Carries
import CatalogShell.Proofs.Shell.History
import CatalogShell.Proofs.Shell.Run
import CatalogShell.Proofs.Json.Token
import CatalogShell.Proofs.Json.Grammar
import CatalogShell.Proofs.Json.Writer
import CatalogShell.Proofs.Value.Json
import CatalogShell.Proofs.Command.Limit
import CatalogShell.Proofs.Command.Explained
import CatalogShell.Proofs.Settings.Steps
import CatalogShell.Proofs.Shell.Statement
import CatalogShell.Proofs.Command.KeyOrder
import CatalogShell.Proofs.Describe.SequenceState
import CatalogShell.Proofs.Render.Grid
import CatalogShell.Proofs.Render.Report
import CatalogShell.Proofs.Report.Places
import CatalogShell.Proofs.Text.Numbered
import CatalogShell.Proofs.Describe.Indexes
import CatalogShell.Proofs.Describe.Firing
import CatalogShell.Proofs.Query.Steps
import CatalogShell.Proofs.Command.ExtensionMembers
import CatalogShell.Proofs.Command.Help
import CatalogShell.Proofs.Pattern.Dollar
import CatalogShell.Proofs.Value.Getters
