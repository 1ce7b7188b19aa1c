import DocumentQuery.Cache.Basic
import DocumentQuery.Cache.Config
import DocumentQuery.Command.Line
import DocumentQuery.Command.Report
import DocumentQuery.Command.Run
import DocumentQuery.Files
import DocumentQuery.Filter.Basic
import DocumentQuery.Filter.Compile
import DocumentQuery.Filter.Error
import DocumentQuery.Filter.Literals
import DocumentQuery.Filter.Reader
import DocumentQuery.Filter.Shape
import DocumentQuery.Json.Basic
import DocumentQuery.Json.Cursor
import DocumentQuery.Json.Fault
import DocumentQuery.Json.Layout
import DocumentQuery.Json.Printer
import DocumentQuery.Json.Skipper
import DocumentQuery.Main
import DocumentQuery.Number.Binary64
import DocumentQuery.Number.Decimal
import DocumentQuery.Options.Basic
import DocumentQuery.Options.Clauses
import DocumentQuery.Options.Reader
import DocumentQuery.Path
import DocumentQuery.Reference
import DocumentQuery.Schema.Basic
import DocumentQuery.Schema.Declaration
import DocumentQuery.Schema.Definition
import DocumentQuery.Schema.File
import DocumentQuery.Select
import DocumentQuery.Settings
import DocumentQuery.SipHash
import DocumentQuery.Sql.Condition
import DocumentQuery.Sql.Literal
import DocumentQuery.Sql.Placeholder
import DocumentQuery.Sql.Quote
import DocumentQuery.Sql.Statement
import DocumentQuery.Sql.Token
import DocumentQuery.Text.Blank
import DocumentQuery.Text.CharRange
import DocumentQuery.Text.DecimalDigit
import DocumentQuery.Text.Hex
import DocumentQuery.Text.Quoted
import DocumentQuery.Text.Visible
import DocumentQuery.Text.WordCharacter
import DocumentQuery.Toon
import DocumentQuery.Value
import DocumentQuery.Proofs.Checks
import DocumentQuery.Proofs.Code.Bytes
import DocumentQuery.Proofs.Filter.Structure
import DocumentQuery.Proofs.Schema.Agreement
import DocumentQuery.Proofs.Sql.Rewriting
import DocumentQuery.Proofs.Filter.Alike
import DocumentQuery.Proofs.Filter.Values
import DocumentQuery.Proofs.Select.Indexing
import DocumentQuery.Proofs.Select.Quoting
import DocumentQuery.Proofs.Select.Grammar
import DocumentQuery.Proofs.Cache.Queue
import DocumentQuery.Proofs.Cache.Transparency
import DocumentQuery.Proofs.Select.Alignment
import DocumentQuery.Proofs.Filter.Meaning
import DocumentQuery.Proofs.Filter.Tokens
import DocumentQuery.Proofs.Sql.Offsets
import DocumentQuery.Proofs.Sql.Items
import DocumentQuery.Proofs.Sql.Chunk
import DocumentQuery.Proofs.Sql.Readable
import DocumentQuery.Proofs.Filter.Expression
import DocumentQuery.Proofs.Filter.Reading
import DocumentQuery.Proofs.Filter.Writing
import DocumentQuery.Proofs.Schema.Names
import DocumentQuery.Proofs.Schema.Collections
import DocumentQuery.Proofs.Command.Session
import DocumentQuery.Proofs.Filter.Shape
import DocumentQuery.Proofs.Command.Modes
import DocumentQuery.Proofs.Schema.Constraints
import DocumentQuery.Proofs.Schema.Fingerprint
import DocumentQuery.Proofs.Filter.Violations
import DocumentQuery.Proofs.Sql.ColumnUse
import DocumentQuery.Proofs.Filter.Scoping
import DocumentQuery.Proofs.Filter.Capture
import DocumentQuery.Proofs.Sql.Like
import DocumentQuery.Proofs.Filter.Patterns
import DocumentQuery.Proofs.Json.Readers
import DocumentQuery.Proofs.Filter.Denotation
import DocumentQuery.Proofs.Filter.Acceptance
import DocumentQuery.Proofs.Filter.Elements
import DocumentQuery.Proofs.Path.Reading
import DocumentQuery.Proofs.Schema.DeclarationOrder
import DocumentQuery.Proofs.Select.PlainField
import DocumentQuery.Proofs.Filter.Lengths
import DocumentQuery.Proofs.Sql.Constant
import DocumentQuery.Proofs.Schema.Defaults
import DocumentQuery.Proofs.Cache.Counters
import DocumentQuery.Proofs.Options.Mentions
import DocumentQuery.Proofs.Options.SortReading
import DocumentQuery.Proofs.Options.SortKeys
import DocumentQuery.Proofs.Schema.FileRoundTrip
import DocumentQuery.Proofs.Sql.Pieces
