import TableTalk.Agent.Basic
import TableTalk.Assistant.Basic
import TableTalk.Assistant.Scenario
import TableTalk.Calendar.Basic
import TableTalk.Calendar.Iso
import TableTalk.Charset.Backslash
import TableTalk.Charset.Basic
import TableTalk.Charset.Chinese
import TableTalk.Charset.Escaped
import TableTalk.Charset.Grid.BigFive
import TableTalk.Charset.Grid.Gb18030
import TableTalk.Charset.Grid.Gb2312
import TableTalk.Charset.Grid.HongKong
import TableTalk.Charset.Grid.JisX0208
import TableTalk.Charset.Grid.JisX0212
import TableTalk.Charset.Grid.JisX0213
import TableTalk.Charset.Grid.KsX1001
import TableTalk.Charset.Japanese
import TableTalk.Charset.Korean
import TableTalk.Charset.Names
import TableTalk.Charset.Page
import TableTalk.Charset.Punycode
import TableTalk.Charset.Reading
import TableTalk.Charset.Taiwanese
import TableTalk.Charset.Unicode
import TableTalk.Charset.Utf7
import TableTalk.Chat.Grid
import TableTalk.Chat.Notice
import TableTalk.Chat.Session
import TableTalk.CommandLine.Choices
import TableTalk.CommandLine.Program
import TableTalk.CommandLine.Usage
import TableTalk.Csv.Fields
import TableTalk.Csv.Records
import TableTalk.Deflate.Block
import TableTalk.Deflate.Format
import TableTalk.Deflate.PrefixCode
import TableTalk.Deflate.Stream
import TableTalk.Double.Basic
import TableTalk.Double.Decimal
import TableTalk.Double.Shortest
import TableTalk.Execution.Executor
import TableTalk.Failure
import TableTalk.Generation.Generator
import TableTalk.Generation.Rules
import TableTalk.Generation.Statement
import TableTalk.Json.Basic
import TableTalk.Json.Encoded
import TableTalk.Json.Reader
import TableTalk.Json.Writer
import TableTalk.Log.Channel
import TableTalk.Log.Excerpt
import TableTalk.Log.FileName
import TableTalk.Log.Journal
import TableTalk.Log.NameCache
import TableTalk.Main
import TableTalk.Model.Reply
import TableTalk.Model.Service
import TableTalk.Proofs.Agent.Chains
import TableTalk.Proofs.Agent.Trail
import TableTalk.Proofs.Chat.Grid
import TableTalk.Proofs.Chat.Session
import TableTalk.Proofs.Csv.Decoded
import TableTalk.Proofs.Csv.LineEndings
import TableTalk.Proofs.Csv.Normal
import TableTalk.Proofs.Csv.Pieces
import TableTalk.Proofs.Csv.Rendering
import TableTalk.Proofs.Double.Rounding
import TableTalk.Proofs.Execution.Remote
import TableTalk.Proofs.Generation.Generator
import TableTalk.Proofs.Generation.Wrapping
import TableTalk.Proofs.Log.Journal
import TableTalk.Proofs.Log.Recency
import TableTalk.Proofs.Log.Sharing
import TableTalk.Proofs.Model.Reply
import TableTalk.Proofs.Query.Appended
import TableTalk.Proofs.Query.Arrangement
import TableTalk.Proofs.Query.Canonical
import TableTalk.Proofs.Query.Cast
import TableTalk.Proofs.Query.Columns
import TableTalk.Proofs.Query.Conditions
import TableTalk.Proofs.Query.Keyword
import TableTalk.Proofs.Query.LeadingNumeral
import TableTalk.Proofs.Query.Literal
import TableTalk.Proofs.Query.Mixture
import TableTalk.Proofs.Query.Narrowing
import TableTalk.Proofs.Query.Orderings
import TableTalk.Proofs.Query.Passing
import TableTalk.Proofs.Query.Recovery
import TableTalk.Proofs.Query.Refinement
import TableTalk.Proofs.Query.Refusal
import TableTalk.Proofs.Query.Selection
import TableTalk.Proofs.Query.SortCell
import TableTalk.Proofs.Query.Spelling
import TableTalk.Proofs.Query.Strictness
import TableTalk.Proofs.Site.Execution
import TableTalk.Proofs.Site.Paging
import TableTalk.Proofs.Source.FileAndPage
import TableTalk.Proofs.Source.Inspector
import TableTalk.Proofs.Source.Loading
import TableTalk.Proofs.Table.Samples
import TableTalk.Proofs.Text.Ascii
import TableTalk.Proofs.Text.Lower
import TableTalk.Proofs.Text.Search
import TableTalk.Query.Basic
import TableTalk.Query.Clauses
import TableTalk.Query.Evaluate
import TableTalk.Query.Order
import TableTalk.Query.Parse
import TableTalk.Query.Plan
import TableTalk.Settings.Basic
import TableTalk.Settings.Load
import TableTalk.Site.Check
import TableTalk.Site.Request
import TableTalk.Site.Service
import TableTalk.Source.Inspector
import TableTalk.Source.Location
import TableTalk.Table.Basic
import TableTalk.Table.ResultSet
import TableTalk.Table.Schema
import TableTalk.Text.Blank
import TableTalk.Text.Composed
import TableTalk.Text.Digit
import TableTalk.Text.Letter
import TableTalk.Text.Lower
import TableTalk.Text.Mark
import TableTalk.Text.Percent
import TableTalk.Text.Printable
import TableTalk.Text.Punycode
import TableTalk.Text.Quoted
import TableTalk.Text.Ranges
import TableTalk.Text.Search
import TableTalk.Text.Template
import TableTalk.Text.Units
import TableTalk.Text.Utf8
import TableTalk.Text.Whole
import TableTalk.Text.Word
import TableTalk.Value
import TableTalk.Web.Address
import TableTalk.Web.ContentType
import TableTalk.Web.DomainName.Basic
import TableTalk.Web.DomainName.Context
import TableTalk.Web.DomainName.Direction
import TableTalk.Web.DomainName.Letter
import TableTalk.Web.Encoding
import TableTalk.Web.Exchange
import TableTalk.Web.Host
import TableTalk.Web.Reference
import TableTalk.Web.Status
import TableTalk.World.Basic
import TableTalk.World.Files
import TableTalk.World.Path
import TableTalk.Yaml.BlockText
import TableTalk.Yaml.Cursor
import TableTalk.Yaml.Document
import TableTalk.Yaml.Graph.Basic
import TableTalk.Yaml.Graph.Reader
import TableTalk.Yaml.Key
import TableTalk.Yaml.Mark
import TableTalk.Yaml.Object
import TableTalk.Yaml.Plain
import TableTalk.Yaml.Quotation
import TableTalk.Yaml.Resolve
import TableTalk.Yaml.Scalar
import TableTalk.Yaml.Scanner
import TableTalk.Yaml.Tag
import TableTalk.Yaml.Token
