import ApiTypings.Calendar
import ApiTypings.CommandLine.Arguments
import ApiTypings.CommandLine.Cells
import ApiTypings.CommandLine.Emoji
import ApiTypings.CommandLine.EmojiTable
import ApiTypings.CommandLine.Markup
import ApiTypings.CommandLine.Run
import ApiTypings.CommandLine.Style
import ApiTypings.Compile
import ApiTypings.Component.Catalog
import ApiTypings.Component.Fresh
import ApiTypings.Component.Naming
import ApiTypings.Component.Pointer
import ApiTypings.Configuration
import ApiTypings.Configuration.Lookup
import ApiTypings.Configuration.Variables
import ApiTypings.Decimal.Layout
import ApiTypings.Decimal.Limit
import ApiTypings.Decimal.Numeral
import ApiTypings.Decimal.Shortest
import ApiTypings.Document.Content
import ApiTypings.Document.Issue
import ApiTypings.Document.Model
import ApiTypings.Document.Normalize
import ApiTypings.Document.Operation
import ApiTypings.Document.References
import ApiTypings.Document.Schema
import ApiTypings.Document.SchemaKind
import ApiTypings.Failure
import ApiTypings.Job
import ApiTypings.Json.Reader
import ApiTypings.Json.Writer
import ApiTypings.Main
import ApiTypings.Options
import ApiTypings.Proofs.Typing.Calls
import ApiTypings.Proofs.Typing.Unfolding
import ApiTypings.Source
import ApiTypings.Storage.Files
import ApiTypings.Storage.Host
import ApiTypings.Storage.Path
import ApiTypings.Text.Base
import ApiTypings.Text.BaseTable
import ApiTypings.Text.Blank
import ApiTypings.Text.Capital
import ApiTypings.Text.Cased
import ApiTypings.Text.Digit
import ApiTypings.Text.Half
import ApiTypings.Text.Hex
import ApiTypings.Text.Lower
import ApiTypings.Text.MarkTable
import ApiTypings.Text.Percent
import ApiTypings.Text.Quoted
import ApiTypings.Text.Range
import ApiTypings.Text.SingleQuoted
import ApiTypings.Text.Unseen
import ApiTypings.Text.Utf8
import ApiTypings.Toml.Reader
import ApiTypings.Toml.Scalar
import ApiTypings.TypeScript.Comment
import ApiTypings.TypeScript.Declaration
import ApiTypings.TypeScript.Identifier
import ApiTypings.TypeScript.TopLevel
import ApiTypings.TypeScript.TypeExpr
import ApiTypings.Typing.Body
import ApiTypings.Typing.Declarations
import ApiTypings.Typing.Merge
import ApiTypings.Typing.Paths
import ApiTypings.Typing.Schema
import ApiTypings.Typing.Site
import ApiTypings.Typing.Traced
import ApiTypings.Value
import ApiTypings.ValueText
import ApiTypings.Web.Address
import ApiTypings.Web.Charset
import ApiTypings.Web.CharsetTable
import ApiTypings.Web.HostName
import ApiTypings.Web.Letter
import ApiTypings.Web.Literal
import ApiTypings.Web.Punycode
import ApiTypings.Web.Recognition
import ApiTypings.Web.Reply
import ApiTypings.Yaml.Cursor
import ApiTypings.Yaml.Lexeme
import ApiTypings.Yaml.Node
import ApiTypings.Yaml.Reader
import ApiTypings.Yaml.Scalar
import ApiTypings.Yaml.Token
import ApiTypings.Proofs.Json.Unquote
import ApiTypings.Proofs.TypeScript.Grammar
import ApiTypings.Proofs.TypeScript.Parser
import ApiTypings.Proofs.Outcome
import ApiTypings.Proofs.TypeScript.Comment
import ApiTypings.Proofs.TypeScript.Numeral
import ApiTypings.Proofs.TypeScript.Rendering
import ApiTypings.Proofs.TypeScript.Building
import ApiTypings.Proofs.Typing.Cases
import ApiTypings.Proofs.Typing.Denotation
import ApiTypings.Proofs.Typing.Results
import ApiTypings.Proofs.Typing.Faithful
import ApiTypings.Proofs.TypeScript.Nesting
import ApiTypings.Proofs.Typing.Interfaces
import ApiTypings.Proofs.Typing.Agreement
import ApiTypings.Proofs.Typing.Holding
import ApiTypings.Proofs.Typing.Uncommented
import ApiTypings.Proofs.Typing.UncommentedPaths
import ApiTypings.Proofs.TypeScript.ModuleText
import ApiTypings.Proofs.Typing.UncommentedModule
import ApiTypings.Proofs.TypeScript.Reading
import ApiTypings.Proofs.Text.Percent
import ApiTypings.Proofs.Component.Pointers
import ApiTypings.Proofs.Text.Encodings
import ApiTypings.Proofs.Text.Halves
import ApiTypings.Proofs.Component.Distinct
import ApiTypings.Proofs.Component.Chains
import ApiTypings.Proofs.Component.Resolution
import ApiTypings.Proofs.Component.ChainEnds
import ApiTypings.Proofs.Typing.Coherence
import ApiTypings.Proofs.Typing.RenderedNames
import ApiTypings.Proofs.Component.Outline
import ApiTypings.Proofs.Typing.Invariants
import ApiTypings.Proofs.Typing.Obstacles
import ApiTypings.Proofs.Typing.Units
import ApiTypings.Proofs.Typing.Closed
import ApiTypings.Proofs.Typing.Modularity
import ApiTypings.Proofs.Typing.Editing
import ApiTypings.Proofs.Document.Idempotence
import ApiTypings.Proofs.Document.Resemblance
import ApiTypings.Proofs.Document.Matching
import ApiTypings.Proofs.Document.Readings
import ApiTypings.Proofs.Document.DescriptionReadings
import ApiTypings.Proofs.Typing.Congruence
import ApiTypings.Proofs.Document.UnreadInput
import ApiTypings.Proofs.Typing.Alphabetical
import ApiTypings.Proofs.TypeScript.Keys
import ApiTypings.Proofs.Typing.Surface
import ApiTypings.Proofs.Typing.FaithfulPaths
import ApiTypings.Proofs.Typing.ReadPaths
import ApiTypings.Proofs.Typing.Merging
import ApiTypings.Proofs.Typing.SingleBranch
import ApiTypings.Proofs.Typing.Locations
import ApiTypings.Proofs.Storage.Recording
import ApiTypings.Proofs.Storage.Writing
import ApiTypings.Proofs.CommandLine.Runs
import ApiTypings.Proofs.CommandLine.Reports
import ApiTypings.Proofs.Configuration.Escapes
import ApiTypings.Proofs.CommandLine.Breakdowns
import ApiTypings.Proofs.Component.TypeNames
import ApiTypings.Proofs.Typing.Parameters
import ApiTypings.Proofs.TypeScript.Splitting
import ApiTypings.Proofs.TypeScript.Joining
import ApiTypings.Proofs.Typing.TopLevel
import ApiTypings.Proofs.TypeScript.Lines
import ApiTypings.Proofs.Typing.Formation
import ApiTypings.Proofs.Typing.Indentation
import ApiTypings.Proofs.TypeScript.OneComment
import ApiTypings.Proofs.Typing.Enumerations
