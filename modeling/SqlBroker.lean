import SqlBroker.Backend.Basic
import SqlBroker.Backend.Capabilities
import SqlBroker.Calendar.Clock
import SqlBroker.Calendar.Date
import SqlBroker.Calendar.Instant
import SqlBroker.Calendar.Micros
import SqlBroker.Calendar.Pattern
import SqlBroker.Calendar.Stamp
import SqlBroker.Catalog
import SqlBroker.Connection.Address
import SqlBroker.Connection.Charset
import SqlBroker.Connection.Encryption
import SqlBroker.Connection.Login
import SqlBroker.Connection.Options
import SqlBroker.Connection.Query
import SqlBroker.Connection.Store
import SqlBroker.Connection.Target
import SqlBroker.Connection.Url
import SqlBroker.Decimal.Binary64
import SqlBroker.Decimal.Fixed
import SqlBroker.Decimal.Groups
import SqlBroker.Decimal.Notation
import SqlBroker.Decimal.Shortest
import SqlBroker.Decode.Basic
import SqlBroker.Decode.Fault
import SqlBroker.Decode.Record
import SqlBroker.Decode.Variant
import SqlBroker.Duration
import SqlBroker.Embedded.Schema
import SqlBroker.Embedded.Server
import SqlBroker.Error
import SqlBroker.Filter.Condition
import SqlBroker.Filter.Decode
import SqlBroker.Filter.Operator
import SqlBroker.Filter.Predicate
import SqlBroker.Filter.Tree
import SqlBroker.Http.Answer
import SqlBroker.Http.MediaType
import SqlBroker.Http.Service
import SqlBroker.Internet.Address
import SqlBroker.Json.Basic
import SqlBroker.Json.Draft
import SqlBroker.Json.Printer
import SqlBroker.Json.Reader
import SqlBroker.Keyed
import SqlBroker.Plan
import SqlBroker.Request.Basic
import SqlBroker.Request.Decode
import SqlBroker.Row.Cell
import SqlBroker.Row.Kind
import SqlBroker.Row.Reader
import SqlBroker.Service
import SqlBroker.Session.Fault
import SqlBroker.Session.Inspect
import SqlBroker.Session.Param
import SqlBroker.Session.Run
import SqlBroker.Session.Server
import SqlBroker.Settings.Basic
import SqlBroker.Settings.SocketAddress
import SqlBroker.Sql.Condition
import SqlBroker.Sql.Depth
import SqlBroker.Sql.Lexer
import SqlBroker.Sql.Script
import SqlBroker.Sql.Statement
import SqlBroker.Table
import SqlBroker.Text.Blank
import SqlBroker.Text.Case
import SqlBroker.Text.Digits
import SqlBroker.Text.Encoded
import SqlBroker.Text.Hidden
import SqlBroker.Text.Quoted
import SqlBroker.Value.Basic
import SqlBroker.Value.Reader
import SqlBroker.Value.Type
import SqlBroker.Proofs.Sql.Lexeme
import SqlBroker.Proofs.Sql.Spelling
import SqlBroker.Proofs.Except
import SqlBroker.Proofs.Error
import SqlBroker.Proofs.Keyed
import SqlBroker.Proofs.Plan
import SqlBroker.Proofs.Filter.Condition
import SqlBroker.Proofs.Filter.Columns
import SqlBroker.Proofs.Filter.Truth
import SqlBroker.Proofs.Filter.Like
import SqlBroker.Proofs.Decimal.Search
import SqlBroker.Proofs.Decimal.Shortest
import SqlBroker.Proofs.Decimal.Notation
import SqlBroker.Proofs.Value.Worded
import SqlBroker.Proofs.Sql.Grammar
import SqlBroker.Proofs.Calendar.Micros
import SqlBroker.Proofs.Session.Param
import SqlBroker.Proofs.Sql.Placeholder
import SqlBroker.Proofs.Filter.Meaning
import SqlBroker.Proofs.Sql.Reading
import SqlBroker.Proofs.Sql.Planned
import SqlBroker.Proofs.Sql.EveryRow
import SqlBroker.Proofs.Sql.Columns
import SqlBroker.Proofs.Sql.Pages
import SqlBroker.Proofs.Sql.NullCharacter
import SqlBroker.Proofs.Sql.Quoting
import SqlBroker.Proofs.Backend.Scheme
import SqlBroker.Proofs.Connection.Options
import SqlBroker.Proofs.Catalog
import SqlBroker.Proofs.Session.Inspect
import SqlBroker.Proofs.Session.Release
import SqlBroker.Proofs.Refusal
import SqlBroker.Proofs.Service
import SqlBroker.Proofs.Filter.Null
import SqlBroker.Proofs.Session.Ending
import SqlBroker.Proofs.Session.Alike
import SqlBroker.Proofs.Http.Status
import SqlBroker.Proofs.Json.Order
import SqlBroker.Proofs.Json.Text
import SqlBroker.Proofs.Decode.Outcome
import SqlBroker.Proofs.Decode.Steady
import SqlBroker.Proofs.Decode.Depth
import SqlBroker.Proofs.Decode.Added
import SqlBroker.Proofs.Request.Spelling
import SqlBroker.Proofs.Decode.Written
import SqlBroker.Proofs.Filter.Written
import SqlBroker.Proofs.Request.Written
import SqlBroker.Proofs.Filter.Surplus
import SqlBroker.Proofs.Filter.Pruned
import SqlBroker.Proofs.Filter.Insertion
import SqlBroker.Proofs.Filter.Fields
import SqlBroker.Proofs.Filter.Leaves
import SqlBroker.Proofs.Table
import SqlBroker.Proofs.Text.Encoded
import SqlBroker.Proofs.Filter.Affix
import SqlBroker.Proofs.Decimal.Rounding
import SqlBroker.Proofs.Decimal.Whole
import SqlBroker.Proofs.Value.Number
import SqlBroker.Proofs.Text.Digits
import SqlBroker.Proofs.Text.Hex
import SqlBroker.Proofs.Calendar.Written
import SqlBroker.Proofs.Calendar.Instant
import SqlBroker.Proofs.Calendar.Printed
import SqlBroker.Proofs.Calendar.Timeline
import SqlBroker.Proofs.Calendar.Zoned
import SqlBroker.Proofs.Calendar.Forms
import SqlBroker.Proofs.Value.Printed
import SqlBroker.Proofs.Value.Zoned
import SqlBroker.Proofs.Value.Forms
import SqlBroker.Proofs.Decimal.Fixed
import SqlBroker.Proofs.Decimal.Groups
import SqlBroker.Proofs.Row.Held
import SqlBroker.Proofs.Row.Null
import SqlBroker.Proofs.Session.Rows
import SqlBroker.Proofs.Duration
import SqlBroker.Proofs.Connection.Entries
import SqlBroker.Proofs.Filter.Depth
import SqlBroker.Proofs.Filter.WellFormed
import SqlBroker.Proofs.Sql.Parentheses
