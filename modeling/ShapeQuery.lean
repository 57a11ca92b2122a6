import ShapeQuery.Argument
import ShapeQuery.Client
import ShapeQuery.Client.Connection
import ShapeQuery.Client.UserAgent
import ShapeQuery.Configuration
import ShapeQuery.Configuration.Value
import ShapeQuery.Datatype
import ShapeQuery.Datum
import ShapeQuery.Datum.Decoding
import ShapeQuery.Datum.Encoding
import ShapeQuery.Datum.Members
import ShapeQuery.Document
import ShapeQuery.Envelope
import ShapeQuery.Exchange
import ShapeQuery.Execution
import ShapeQuery.Floating
import ShapeQuery.Floating.Decimal
import ShapeQuery.Floating.Shortest
import ShapeQuery.HeaderField
import ShapeQuery.Json
import ShapeQuery.Json.Fault
import ShapeQuery.Json.Number
import ShapeQuery.Json.Reader
import ShapeQuery.Json.Skipper
import ShapeQuery.Json.Token
import ShapeQuery.Json.Typed
import ShapeQuery.Json.Writer
import ShapeQuery.LogEntry
import ShapeQuery.Named
import ShapeQuery.Proofs.ByteOrder
import ShapeQuery.Proofs.Document.Token
import ShapeQuery.Resource.Operations
import ShapeQuery.Resource.Records
import ShapeQuery.Resource.Repository
import ShapeQuery.Resource.RepositorySettings
import ShapeQuery.Resource.SshKey
import ShapeQuery.Schema
import ShapeQuery.Selection
import ShapeQuery.SelectionCache
import ShapeQuery.ServerError
import ShapeQuery.Shape
import ShapeQuery.Text.Big5
import ShapeQuery.Text.Blank
import ShapeQuery.Text.Charset
import ShapeQuery.Text.CombiningClass
import ShapeQuery.Text.Composition
import ShapeQuery.Text.Direction
import ShapeQuery.Text.DoubleByte
import ShapeQuery.Text.Gb18030
import ShapeQuery.Text.Gb2312
import ShapeQuery.Text.Grid
import ShapeQuery.Text.Interval
import ShapeQuery.Text.Japanese
import ShapeQuery.Text.Jis0208
import ShapeQuery.Text.Jis0212
import ShapeQuery.Text.Joining
import ShapeQuery.Text.Korean
import ShapeQuery.Text.Ksx1001
import ShapeQuery.Text.Mark
import ShapeQuery.Text.Normalization
import ShapeQuery.Text.Quoted
import ShapeQuery.Text.SingleByte
import ShapeQuery.Text.Unprintable
import ShapeQuery.Text.Utf16
import ShapeQuery.Text.Utf8
import ShapeQuery.Url
import ShapeQuery.Url.Host
import ShapeQuery.Url.Label
import ShapeQuery.Url.LabelMapping
import ShapeQuery.Url.Parser
import ShapeQuery.Url.PercentEncoding
import ShapeQuery.Url.Punycode
import ShapeQuery.VariableType
import ShapeQuery.Proofs.Document.Reader
import ShapeQuery.Proofs.Argument
import ShapeQuery.Proofs.Document.RoundTrip
import ShapeQuery.Proofs.Execution.Conclusion
import ShapeQuery.Proofs.Execution.Run
import ShapeQuery.Proofs.Execution.Preparation
import ShapeQuery.Proofs.Execution.Preflight
import ShapeQuery.Proofs.Json.Number
import ShapeQuery.Proofs.Json.Text
import ShapeQuery.Proofs.Json.Token
import ShapeQuery.Proofs.Json.Reader
import ShapeQuery.Proofs.Datum.Encoding
import ShapeQuery.Proofs.Execution.RequestBody
import ShapeQuery.Proofs.Named.LastWritten
import ShapeQuery.Proofs.Argument.History
import ShapeQuery.Proofs.Document.Mark
import ShapeQuery.Proofs.Datum.Decoding
import ShapeQuery.Proofs.Selection
import ShapeQuery.Proofs.Datum.Presentation
import ShapeQuery.Proofs.Resource.Presentation
import ShapeQuery.Proofs.Json.Order
import ShapeQuery.Proofs.Resource.Request
import ShapeQuery.Proofs.Resource.Confirmation
import ShapeQuery.Proofs.SelectionCache
import ShapeQuery.Proofs.Document.Grammar
import ShapeQuery.Proofs.Document.Derivation
import ShapeQuery.Proofs.Resource.SentDocument
import ShapeQuery.Proofs.Json.Typed
import ShapeQuery.Proofs.Json.Meaning
import ShapeQuery.Proofs.Envelope
import ShapeQuery.Proofs.Execution.Ending
import ShapeQuery.Proofs.Execution.Relevance
import ShapeQuery.Proofs.Execution.Mistyped
import ShapeQuery.Proofs.Projection
import ShapeQuery.Proofs.Execution.NullValue
import ShapeQuery.Proofs.Resource.SentVariables
import ShapeQuery.Proofs.Client.Authorization
import ShapeQuery.Proofs.Datatype.Reference
import ShapeQuery.Proofs.Datatype.Unfolding
import ShapeQuery.Proofs.VariableType
import ShapeQuery.Proofs.FieldLabel
import ShapeQuery.Proofs.Floating.Widening
import ShapeQuery.Proofs.Datum.Typing
import ShapeQuery.Proofs.Resource.Overlay
import ShapeQuery.Proofs.Resource.ReadBack
import ShapeQuery.Proofs.Resource.Search
import ShapeQuery.Proofs.Resource.Deletion
import ShapeQuery.Proofs.HeaderField
import ShapeQuery.Proofs.Configuration.ApiKey
import ShapeQuery.Proofs.Configuration.Builder
import ShapeQuery.Proofs.Client.Creation
import ShapeQuery.Proofs.Json.Sound
import ShapeQuery.Proofs.Json.Members
import ShapeQuery.Proofs.ServerError
import ShapeQuery.Proofs.Execution.Reported
import ShapeQuery.Proofs.Text.Row
import ShapeQuery.Proofs.ServerError.Rendering
