import DirectorySearch.CommandLine.Arguments
import DirectorySearch.CommandLine.Run
import DirectorySearch.Decimal.Binary64
import DirectorySearch.Decimal.Layout
import DirectorySearch.Decimal.Shortest
import DirectorySearch.Directory.Connection
import DirectorySearch.Directory.Cursor
import DirectorySearch.Directory.Error
import DirectorySearch.Directory.Event
import DirectorySearch.Directory.Provider
import DirectorySearch.Directory.QueryLog
import DirectorySearch.Directory.Script
import DirectorySearch.Directory.Transport
import DirectorySearch.Filter.Condition
import DirectorySearch.Filter.Dialect
import DirectorySearch.Filter.Keyword
import DirectorySearch.Filter.Value
import DirectorySearch.Http.DomainTable
import DirectorySearch.Http.Host
import DirectorySearch.Http.Method
import DirectorySearch.Http.Punycode
import DirectorySearch.Http.Request
import DirectorySearch.Http.Url
import DirectorySearch.Http.Wire
import DirectorySearch.Json.Basic
import DirectorySearch.Json.Pointer
import DirectorySearch.Json.Written
import DirectorySearch.Logging.Filter
import DirectorySearch.Logging.Line
import DirectorySearch.Main
import DirectorySearch.Proofs.CommandLine.FirstRequest
import DirectorySearch.Proofs.CommandLine.LimitedSearch
import DirectorySearch.Proofs.Decimal.Digits
import DirectorySearch.Proofs.Decimal.Plain
import DirectorySearch.Proofs.Decimal.Shortest
import DirectorySearch.Proofs.Directory.CursorEnd
import DirectorySearch.Proofs.Directory.CursorExchanges
import DirectorySearch.Proofs.Directory.CursorHistory
import DirectorySearch.Proofs.Directory.CursorProtocol
import DirectorySearch.Proofs.Directory.CursorsApart
import DirectorySearch.Proofs.Directory.DryRun
import DirectorySearch.Proofs.Directory.EmptyDirectory
import DirectorySearch.Proofs.Directory.LogHistory
import DirectorySearch.Proofs.Directory.Overlap
import DirectorySearch.Proofs.Directory.PageHistory
import DirectorySearch.Proofs.Directory.PagingBound
import DirectorySearch.Proofs.Directory.Readings
import DirectorySearch.Proofs.Directory.Restoration
import DirectorySearch.Proofs.Directory.Silence
import DirectorySearch.Proofs.Directory.TokenText
import DirectorySearch.Proofs.Directory.Traversal
import DirectorySearch.Proofs.Filter.Assembly
import DirectorySearch.Proofs.Filter.Clauses
import DirectorySearch.Proofs.Filter.Expression
import DirectorySearch.Proofs.Filter.Grammar
import DirectorySearch.Proofs.Filter.Meaning
import DirectorySearch.Proofs.Filter.Membership
import DirectorySearch.Proofs.Filter.Presence
import DirectorySearch.Proofs.Filter.Quoted
import DirectorySearch.Proofs.Filter.Reader
import DirectorySearch.Proofs.Filter.RoundTrip
import DirectorySearch.Proofs.Filter.Scan
import DirectorySearch.Proofs.Http.Form
import DirectorySearch.Proofs.Http.SameQuery
import DirectorySearch.Proofs.Json.Grammar
import DirectorySearch.Proofs.Json.KeptText
import DirectorySearch.Proofs.Json.NumberForm
import DirectorySearch.Proofs.Json.OneLine
import DirectorySearch.Proofs.Json.Reading
import DirectorySearch.Proofs.Json.Writing
import DirectorySearch.Proofs.Json.WrittenPointer
import DirectorySearch.Proofs.Query.Calls
import DirectorySearch.Proofs.Query.Comparisons
import DirectorySearch.Proofs.Query.Find
import DirectorySearch.Proofs.Query.Grammatical
import DirectorySearch.Proofs.Query.JsonRoundTrip
import DirectorySearch.Proofs.Settings.EmbeddedReference
import DirectorySearch.Proofs.Settings.Expansion
import DirectorySearch.Proofs.Settings.Load
import DirectorySearch.Proofs.Settings.QuotedReference
import DirectorySearch.Proofs.Settings.References
import DirectorySearch.Proofs.Settings.TextSetting
import DirectorySearch.Proofs.Text.Fields
import DirectorySearch.Proofs.Toml.Address
import DirectorySearch.Proofs.Toml.BasicString
import DirectorySearch.Proofs.Toml.Place
import DirectorySearch.Query.Builder
import DirectorySearch.Query.Call
import DirectorySearch.Query.Compiled
import DirectorySearch.Settings.Basic
import DirectorySearch.Settings.Decode
import DirectorySearch.Settings.Expansion
import DirectorySearch.Settings.Load
import DirectorySearch.Text.Base64
import DirectorySearch.Text.Blank
import DirectorySearch.Text.Case
import DirectorySearch.Text.Diagnostic
import DirectorySearch.Text.Fields
import DirectorySearch.Text.Hex
import DirectorySearch.Text.Percent
import DirectorySearch.Text.Unprintable
import DirectorySearch.Text.Utf8
import DirectorySearch.Toml.Document
import DirectorySearch.Toml.Quoted
import DirectorySearch.Toml.Scalar
import DirectorySearch.Toml.Table
import DirectorySearch.Toml.Value
