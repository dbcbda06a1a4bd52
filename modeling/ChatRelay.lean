import ChatRelay.Attempts
import ChatRelay.Calendar
import ChatRelay.ChatEvent
import ChatRelay.ChatModel
import ChatRelay.ChatRequest
import ChatRelay.Config
import ChatRelay.Console.Arguments
import ChatRelay.Console.Run
import ChatRelay.Console.Session
import ChatRelay.Endpoint
import ChatRelay.Event.Basic
import ChatRelay.Event.Format
import ChatRelay.Failure
import ChatRelay.Json.Basic
import ChatRelay.Json.Field
import ChatRelay.Json.Plain
import ChatRelay.Json.Printer
import ChatRelay.Json.Reader
import ChatRelay.Log
import ChatRelay.Main
import ChatRelay.Number.Basic
import ChatRelay.Number.Decimal
import ChatRelay.Options
import ChatRelay.Path
import ChatRelay.Prompt
import ChatRelay.Prompt.Assembly
import ChatRelay.Proofs.Console.Arguments
import ChatRelay.Proofs.Console.Recall
import ChatRelay.Proofs.Console.Turns
import ChatRelay.Proofs.Endpoint
import ChatRelay.Proofs.Endpoint.Calls
import ChatRelay.Proofs.Endpoint.Leaving
import ChatRelay.Proofs.Event.NormalForm
import ChatRelay.Proofs.Event.Reading
import ChatRelay.Proofs.Event.Shape
import ChatRelay.Proofs.Event.Unread
import ChatRelay.Proofs.Json.Extent
import ChatRelay.Proofs.Json.Order
import ChatRelay.Proofs.Json.Printed
import ChatRelay.Proofs.Json.RoundTrip
import ChatRelay.Proofs.Options
import ChatRelay.Proofs.Prompt.Parts
import ChatRelay.Proofs.Prompt.Replies
import ChatRelay.Proofs.Prompt.Runs
import ChatRelay.Proofs.Reply.Answer
import ChatRelay.Proofs.Reply.Block
import ChatRelay.Proofs.Reply.InPlace
import ChatRelay.Proofs.Reply.OpenTexts
import ChatRelay.Proofs.Reply.Shared
import ChatRelay.Proofs.Result
import ChatRelay.Proofs.Server.Authorization
import ChatRelay.Proofs.Server.Streamed
import ChatRelay.Proofs.Server.Threads
import ChatRelay.Proofs.Stream.Arguments
import ChatRelay.Proofs.Stream.Body
import ChatRelay.Proofs.Stream.Chunks
import ChatRelay.Proofs.Stream.Collecting
import ChatRelay.Proofs.Stream.Content
import ChatRelay.Proofs.Stream.Decoding
import ChatRelay.Proofs.Stream.DoneMark
import ChatRelay.Proofs.Stream.Draft
import ChatRelay.Proofs.Stream.Edits
import ChatRelay.Proofs.Stream.Finality
import ChatRelay.Proofs.Stream.Frames
import ChatRelay.Proofs.Stream.Header
import ChatRelay.Proofs.Stream.Held
import ChatRelay.Proofs.Stream.Message
import ChatRelay.Proofs.Stream.OnePass
import ChatRelay.Proofs.Stream.Pace
import ChatRelay.Proofs.Stream.Payloads
import ChatRelay.Proofs.Stream.Reader
import ChatRelay.Proofs.Stream.Restart
import ChatRelay.Proofs.Stream.Stage
import ChatRelay.Proofs.Stream.Steps
import ChatRelay.Proofs.Stream.Strokes
import ChatRelay.Proofs.Stream.Truncation
import ChatRelay.Proofs.Stream.VendorError
import ChatRelay.Proofs.Stream.WindowFolds
import ChatRelay.Proofs.Stream.Windows
import ChatRelay.Proofs.Stream.Wire
import ChatRelay.Proofs.Text.Cutting
import ChatRelay.Proofs.Text.Encoding
import ChatRelay.Proofs.Text.Utf8
import ChatRelay.Proofs.ToolSet
import ChatRelay.Proofs.Traffic.Basic
import ChatRelay.Proofs.Traffic.Isolation
import ChatRelay.Proofs.Traffic.Overlap
import ChatRelay.Proofs.Traffic.Requests
import ChatRelay.Proofs.Turn.Asking
import ChatRelay.Proofs.Turn.Course
import ChatRelay.Proofs.Turn.Exchange
import ChatRelay.Proofs.Turn.Outcome
import ChatRelay.Proofs.Turn.Relaying
import ChatRelay.Proofs.Turn.Storing
import ChatRelay.Proofs.Turn.Transcript
import ChatRelay.Proofs.Validation
import ChatRelay.Reply
import ChatRelay.Reply.Format
import ChatRelay.Reply.InPlace
import ChatRelay.Reply.Shared
import ChatRelay.Request
import ChatRelay.Server
import ChatRelay.Server.Request
import ChatRelay.Service
import ChatRelay.Stream.Body
import ChatRelay.Stream.Collecting
import ChatRelay.Stream.Flow
import ChatRelay.Stream.Held
import ChatRelay.Stream.Reader
import ChatRelay.Stream.Reduction
import ChatRelay.Stream.Sse
import ChatRelay.Stream.ToolUse
import ChatRelay.Stream.Window
import ChatRelay.Text.Base64
import ChatRelay.Text.Basic
import ChatRelay.Text.Percent
import ChatRelay.Text.Utf8
import ChatRelay.Threads
import ChatRelay.ToolSet
import ChatRelay.Turn.Basic
import ChatRelay.Turn.Events
import ChatRelay.Turn.Plan
import ChatRelay.Turn.Run
import ChatRelay.Url
import ChatRelay.Url.Domain
import ChatRelay.Url.NameTable
import ChatRelay.Url.Punycode
import ChatRelay.Url.Target
import ChatRelay.Validation
import ChatRelay.Yaml.BlockScalar
import ChatRelay.Yaml.Composition
import ChatRelay.Yaml.Document
import ChatRelay.Yaml.Error
import ChatRelay.Yaml.Fold
import ChatRelay.Yaml.Folding
import ChatRelay.Yaml.Lead
import ChatRelay.Yaml.Lexeme
import ChatRelay.Yaml.Node
import ChatRelay.Yaml.Outline
import ChatRelay.Yaml.Outline.Build
import ChatRelay.Yaml.Piece
import ChatRelay.Yaml.Resolution
import ChatRelay.Yaml.Scalar
import ChatRelay.Yaml.Tag
import ChatRelay.Yaml.Value
import ChatRelay.Yaml.Written
