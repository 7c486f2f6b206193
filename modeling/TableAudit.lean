import TableAudit.Audit.Kind
import TableAudit.Audit.Pass
import TableAudit.Audit.Record
import TableAudit.Audit.Views
import TableAudit.Binary64.Basic
import TableAudit.Binary64.Numeral
import TableAudit.Binary64.Shortest
import TableAudit.Digest.Sha256
import TableAudit.Grid.Bits
import TableAudit.Grid.Code
import TableAudit.Grid.Codes
import TableAudit.Grid.Cursor
import TableAudit.Grid.Marks
import TableAudit.Json.Basic
import TableAudit.Json.Lexer
import TableAudit.Json.Node
import TableAudit.Json.Number
import TableAudit.Json.Reader
import TableAudit.Json.Token
import TableAudit.Locale.Basic
import TableAudit.Locale.Date
import TableAudit.Locale.Format
import TableAudit.Locale.Number
import TableAudit.Locale.Standard
import TableAudit.Pattern.Automaton
import TableAudit.Pattern.Basic
import TableAudit.Pattern.ByteRange
import TableAudit.Pattern.Lexical
import TableAudit.Pattern.Meaning
import TableAudit.Pattern.Parser
import TableAudit.Pattern.Search
import TableAudit.Pattern.Shape
import TableAudit.Pattern.Size
import TableAudit.Pattern.Term
import TableAudit.Plan.Cache
import TableAudit.Plan.Column
import TableAudit.Plan.Error
import TableAudit.Plan.Schema
import TableAudit.Plan.Test
import TableAudit.Schema.Basic
import TableAudit.Schema.CellType
import TableAudit.Schema.Fingerprint
import TableAudit.Schema.Options
import TableAudit.Schema.Rule
import TableAudit.Schema.Written
import TableAudit.Text.AgeTables
import TableAudit.Text.Blank
import TableAudit.Text.BreakTables
import TableAudit.Text.CaseTable
import TableAudit.Text.CategoryTables
import TableAudit.Text.CharSet
import TableAudit.Text.CharTables
import TableAudit.Text.Classes
import TableAudit.Text.Decimal
import TableAudit.Text.DigitTable
import TableAudit.Text.Lower
import TableAudit.Text.PropertyTables
import TableAudit.Text.Quoted
import TableAudit.Text.ScriptTables
import TableAudit.Proofs.Grid.Bits
import TableAudit.Proofs.Grid.Cells
import TableAudit.Proofs.Grid.Marks
import TableAudit.Proofs.Plan.Demands
import TableAudit.Proofs.Plan.Layout
import TableAudit.Proofs.Plan.Meaning
import TableAudit.Proofs.Audit.Pass
import TableAudit.Proofs.Audit.Bands
import TableAudit.Proofs.Audit.Views
import TableAudit.Proofs.Schema.Names
import TableAudit.Proofs.Schema.Content
import TableAudit.Proofs.Plan.Cache
import TableAudit.Proofs.Plan.Bands
import TableAudit.Proofs.Audit.Counts
import TableAudit.Proofs.Audit.Order
import TableAudit.Proofs.Plan.Defects
import TableAudit.Proofs.Audit.Chunks
import TableAudit.Proofs.Audit.Columns
import TableAudit.Proofs.Plan.Answers
import TableAudit.Proofs.Audit.Stricter
import TableAudit.Proofs.Audit.Outside
import TableAudit.Proofs.Binary64.Rounding
import TableAudit.Proofs.Binary64.Shortest
import TableAudit.Proofs.Json.Literals
import TableAudit.Proofs.Json.Numbers
import TableAudit.Proofs.Json.Tokens
import TableAudit.Proofs.Json.Nodes
import TableAudit.Proofs.Schema.Written
import TableAudit.Proofs.Binary64.Numeral
import TableAudit.Proofs.Locale.Numbers
import TableAudit.Proofs.Binary64.Quotients
import TableAudit.Proofs.Text.Parts
import TableAudit.Proofs.Plan.Bounds
import TableAudit.Proofs.Plan.Lifetimes
import TableAudit.Proofs.Json.Range
import TableAudit.Proofs.Json.Readers
import TableAudit.Proofs.Schema.Parsed
import TableAudit.Proofs.Pattern.Search
import TableAudit.Proofs.Text.Sets
import TableAudit.Proofs.Pattern.Words
import TableAudit.Proofs.Locale.Dates
import TableAudit.Proofs.Locale.Amounts
import TableAudit.Proofs.Text.Trim
import TableAudit.Proofs.Plan.Digits
import TableAudit.Proofs.Plan.English
import TableAudit.Proofs.Audit.Matching
import TableAudit.Proofs.Audit.Normal
import TableAudit.Proofs.Audit.Pages
import TableAudit.Proofs.Plan.Appended
import TableAudit.Proofs.Plan.Schemas
import TableAudit.Proofs.Schema.Insertions
import TableAudit.Proofs.Plan.Emails
import TableAudit.Proofs.Text.Lower
import TableAudit.Proofs.Plan.TruthWords
import TableAudit.Proofs.Plan.Synonyms
