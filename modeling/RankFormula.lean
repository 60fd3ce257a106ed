import RankFormula.Api.Config
import RankFormula.Api.Expressions
import RankFormula.Api.Formulas
import RankFormula.Api.PageQuery
import RankFormula.Api.Ranking
import RankFormula.Api.Service
import RankFormula.Api.Start
import RankFormula.Audit.Job
import RankFormula.Audit.Program
import RankFormula.Auth.Claims
import RankFormula.Auth.Sha256
import RankFormula.Auth.Token
import RankFormula.Config.Database
import RankFormula.Config.Environment
import RankFormula.Config.File
import RankFormula.Config.Host
import RankFormula.Config.Sections
import RankFormula.Dialogue
import RankFormula.Document.Value
import RankFormula.Expression.Fault
import RankFormula.Expression.Lowering
import RankFormula.Expression.Node
import RankFormula.Expression.Parsing
import RankFormula.Expression.Reader
import RankFormula.Expression.Report
import RankFormula.Expression.Validity
import RankFormula.Expression.Variables
import RankFormula.Expression.Vocabulary
import RankFormula.Expression.Whitelist
import RankFormula.Formula.Basic
import RankFormula.Formula.Paging
import RankFormula.Formula.Pipeline
import RankFormula.Formula.Stored
import RankFormula.Http.Guard
import RankFormula.Http.Location
import RankFormula.Http.Message
import RankFormula.Http.Query
import RankFormula.Http.RequestId
import RankFormula.Http.Route
import RankFormula.Http.Site
import RankFormula.Json.Basic
import RankFormula.Json.Fields
import RankFormula.Json.Reader
import RankFormula.Json.Writer
import RankFormula.Logging.BuildInfo
import RankFormula.Logging.Record
import RankFormula.Numeral.Decimal
import RankFormula.Numeral.Floating
import RankFormula.Numeral.Integer
import RankFormula.Numeral.Layout
import RankFormula.Numeral.Reading
import RankFormula.Numeral.Shortest
import RankFormula.Proofs.Expression.Derivation
import RankFormula.Proofs.Expression.Structure
import RankFormula.Service.Command
import RankFormula.Service.Connection
import RankFormula.Service.Cursor
import RankFormula.Service.Reply
import RankFormula.Store.Call
import RankFormula.Store.Memory
import RankFormula.Surface.Conversion
import RankFormula.Surface.Fault
import RankFormula.Surface.Lexer
import RankFormula.Surface.Number
import RankFormula.Surface.Parser
import RankFormula.Surface.Precedence
import RankFormula.Surface.Printer
import RankFormula.Surface.Term
import RankFormula.Surface.Token
import RankFormula.Text.Base64
import RankFormula.Text.CharacterClass
import RankFormula.Text.Hex
import RankFormula.Text.Letter
import RankFormula.Text.Percent
import RankFormula.Text.Printable
import RankFormula.Text.Quoted
import RankFormula.Text.RawText
import RankFormula.Text.UpperCase
import RankFormula.Text.Utf8
import RankFormula.Time.Duration
import RankFormula.Time.Instant
import RankFormula.Time.Timestamp
import RankFormula.Yaml.Cursor
import RankFormula.Yaml.Decoder
import RankFormula.Yaml.Loading
import RankFormula.Yaml.Meaning
import RankFormula.Yaml.Reader
import RankFormula.Yaml.Scalar.Block
import RankFormula.Yaml.Scalar.Gap
import RankFormula.Yaml.Scalar.Plain
import RankFormula.Yaml.Scalar.Quoted
import RankFormula.Yaml.Tag
import RankFormula.Yaml.Timestamp
import RankFormula.Yaml.Token
import RankFormula.Yaml.TokenStream
import RankFormula.Yaml.Tree
import RankFormula.Proofs.Expression.Meaning
import RankFormula.Proofs.Formula.Tree
import RankFormula.Proofs.Formula.Fields
import RankFormula.Proofs.Formula.Stages
import RankFormula.Proofs.Formula.Ranking
import RankFormula.Proofs.Audit.Interleaving
import RankFormula.Proofs.Audit.Consistency
import RankFormula.Proofs.Store.Table
import RankFormula.Proofs.Dialogue
import RankFormula.Proofs.Http.Routing
import RankFormula.Proofs.Http.Guarding
import RankFormula.Proofs.Api.Serving
import RankFormula.Proofs.Api.Authorisation
import RankFormula.Proofs.Api.Retention
import RankFormula.Proofs.Api.RankingSources
import RankFormula.Proofs.Api.Refusals
import RankFormula.Proofs.Expression.Printable
import RankFormula.Proofs.Surface.Reading
import RankFormula.Proofs.Api.Verdicts
import RankFormula.Proofs.Formula.Paging
import RankFormula.Proofs.Auth.Acceptance
import RankFormula.Proofs.Surface.PlainTerm
import RankFormula.Proofs.Surface.Lexing
import RankFormula.Proofs.Surface.Climbing
import RankFormula.Proofs.Api.ServerErrors
import RankFormula.Proofs.Api.RankedPages
import RankFormula.Proofs.Text.Utf8
import RankFormula.Proofs.Text.Base64
import RankFormula.Proofs.Numeral.Digits
import RankFormula.Proofs.Numeral.Integers
import RankFormula.Proofs.Json.Texts
import RankFormula.Proofs.Json.Numbers
import RankFormula.Proofs.Json.RoundTrip
import RankFormula.Proofs.Auth.Issuing
import RankFormula.Proofs.Api.Unkeyed
import RankFormula.Proofs.Service.Server
import RankFormula.Proofs.Service.Documents
import RankFormula.Proofs.Service.History
import RankFormula.Proofs.Service.Tracking
import RankFormula.Proofs.Audit.Accounting
import RankFormula.Proofs.Expression.Offences
import RankFormula.Proofs.Expression.Liveness
import RankFormula.Proofs.Formula.Tiling
import RankFormula.Proofs.Store.Checked
import RankFormula.Proofs.Audit.Sweep
import RankFormula.Proofs.Audit.Convergence
import RankFormula.Proofs.Expression.Ignored
import RankFormula.Proofs.Expression.Requirement
import RankFormula.Proofs.Formula.Conditions
import RankFormula.Proofs.Formula.References
import RankFormula.Proofs.Text.ByteOrder
import RankFormula.Proofs.Api.Grammar
import RankFormula.Proofs.Expression.Occurrence
import RankFormula.Proofs.Surface.Conversion
import RankFormula.Proofs.Expression.Placeholders
import RankFormula.Proofs.Numeral.Rounding
import RankFormula.Proofs.Numeral.Shortest
import RankFormula.Proofs.Expression.Description
import RankFormula.Proofs.Audit.Due
import RankFormula.Proofs.Text.Percent
import RankFormula.Proofs.Config.Credentials
import RankFormula.Proofs.Config.VariableNames
import RankFormula.Proofs.Numeral.Signed
import RankFormula.Proofs.Time.Durations
import RankFormula.Proofs.Api.PostsShown
