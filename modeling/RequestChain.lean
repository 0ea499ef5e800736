import RequestChain.Assembly
import RequestChain.CommandLine.Basic
import RequestChain.CommandLine.Environment
import RequestChain.CommandLine.Listing
import RequestChain.CommandLine.Location
import RequestChain.CommandLine.Outcome
import RequestChain.CommandLine.Program
import RequestChain.CommandLine.Reading
import RequestChain.CommandLine.Value
import RequestChain.Config.Basic
import RequestChain.Config.Document
import RequestChain.Config.Printer
import RequestChain.Config.Validation
import RequestChain.Context
import RequestChain.Decimal.Binary64
import RequestChain.Decimal.Shortest
import RequestChain.Effect
import RequestChain.Entries
import RequestChain.Exchange
import RequestChain.Execution.Chain
import RequestChain.Execution.Step
import RequestChain.Http.Message
import RequestChain.Http.Status
import RequestChain.Json.Basic
import RequestChain.Json.Printer
import RequestChain.Json.Reader
import RequestChain.Main
import RequestChain.OrderedMap
import RequestChain.PathParams
import RequestChain.Plugin.Basic
import RequestChain.Plugin.Cache
import RequestChain.Plugin.Core
import RequestChain.Plugin.Registry
import RequestChain.Plugin.Scripted
import RequestChain.Plugin.Secrets
import RequestChain.Resolve
import RequestChain.Results
import RequestChain.Template.Basic
import RequestChain.Template.Octets
import RequestChain.Template.Parser
import RequestChain.Template.Printer
import RequestChain.Template.Scan
import RequestChain.Text.Blank
import RequestChain.Text.Case
import RequestChain.Text.CaseTable
import RequestChain.Text.Digit
import RequestChain.Text.FormEncoding
import RequestChain.Text.Octets
import RequestChain.Text.Utf8
import RequestChain.Time.Calendar
import RequestChain.Time.Format
import RequestChain.Url.Address
import RequestChain.Url.Basic
import RequestChain.Url.Domain
import RequestChain.Url.Parser
import RequestChain.Yaml.Cursor
import RequestChain.Yaml.Decode
import RequestChain.Yaml.Document
import RequestChain.Yaml.Node
import RequestChain.Yaml.Scalar
import RequestChain.Yaml.Token
import RequestChain.Yaml.Token.Block
import RequestChain.Yaml.Token.Gap
import RequestChain.Yaml.Token.Lexer
import RequestChain.Yaml.Token.Plain
import RequestChain.Yaml.Token.Quoted
import RequestChain.Yaml.Token.Tag
import RequestChain.Proofs.Template.Scanning
import RequestChain.Proofs.Template.Grammar
import RequestChain.Proofs.Template.RoundTrip
import RequestChain.Proofs.Coupling
import RequestChain.Proofs.Resolve.Lookups
import RequestChain.Proofs.Resolve.Coupling
import RequestChain.Proofs.Execution.Mirror
import RequestChain.Proofs.Journal
import RequestChain.Proofs.Execution.Attempts
import RequestChain.Proofs.Execution.FailFast
import RequestChain.Proofs.Assembly.Texts
import RequestChain.Proofs.Execution.History
import RequestChain.Proofs.Resolve.Verbatim
import RequestChain.Proofs.Resolve.Answers
import RequestChain.Proofs.Template.Nesting
import RequestChain.Proofs.Template.Composition
import RequestChain.Proofs.Resolve.Composition
import RequestChain.Proofs.PathParams.Masking
import RequestChain.Proofs.PathParams.Unmasking
import RequestChain.Proofs.PathParams.Literal
import RequestChain.Proofs.Resolve.Optional
import RequestChain.Proofs.Resolve.Indirection
import RequestChain.Proofs.Json.Scalars
import RequestChain.Proofs.Config.Validation
import RequestChain.Proofs.Execution.Calls
import RequestChain.Proofs.Text.Cutting
import RequestChain.Proofs.Text.FormEncoding
import RequestChain.Proofs.Assembly.Query
import RequestChain.Proofs.Failures
import RequestChain.Proofs.Resolve.Nested
import RequestChain.Proofs.Resolve.Depth
import RequestChain.Proofs.Resolve.Repetition
import RequestChain.Proofs.Layers
import RequestChain.Proofs.Resolve.Shadowing
import RequestChain.Proofs.Assembly.Precedence
import RequestChain.Proofs.Execution.DryRun
import RequestChain.Proofs.Execution.Invocation
import RequestChain.Proofs.Execution.Isolation
import RequestChain.Proofs.Plugin.Caching
import RequestChain.Proofs.Plugin.Registration
import RequestChain.Proofs.Execution.Pipeline
import RequestChain.Proofs.Resolve.Undefined
import RequestChain.Proofs.Plugin.Composition
import RequestChain.Proofs.Plugin.Sharing
import RequestChain.Proofs.Json.Numbers
import RequestChain.Proofs.Json.Strings
import RequestChain.Proofs.Json.Reading
import RequestChain.Proofs.Template.Selectors
import RequestChain.Proofs.Resolve.RecordedBody
import RequestChain.Proofs.Resolve.Sequence
import RequestChain.Proofs.Resolve.Expansion
import RequestChain.Proofs.Template.Quotation
import RequestChain.Proofs.Resolve.OpenCall
import RequestChain.Proofs.Template.Crossing
import RequestChain.Proofs.Template.Tower
import RequestChain.Proofs.Plugin.Expiry
import RequestChain.Proofs.Json.Order
import RequestChain.Proofs.Resolve.Leaves
import RequestChain.Proofs.Resolve.Inclusion
import RequestChain.Proofs.PathParams.Occurrences
import RequestChain.Proofs.PathParams.Simultaneous
import RequestChain.Proofs.Config.Profiles
import RequestChain.Proofs.Json.LetterCase
import RequestChain.Proofs.Template.Numerals
import RequestChain.Proofs.Json.Recognition
import RequestChain.Proofs.Resolve.BodyValue
import RequestChain.Proofs.Http.Headers
import RequestChain.Proofs.Template.Canonical
import RequestChain.Proofs.Text.Octets
import RequestChain.Proofs.Template.OctetScans
import RequestChain.Proofs.Template.Octets
