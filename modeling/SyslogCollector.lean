import SyslogCollector.Collector.Error
import SyslogCollector.Collector.Files
import SyslogCollector.Collector.Run
import SyslogCollector.Collector.Running
import SyslogCollector.Collector.Shutdown
import SyslogCollector.Collector.Wiring
import SyslogCollector.CommandLine.Basic
import SyslogCollector.CommandLine.Reader
import SyslogCollector.Console
import SyslogCollector.Counter
import SyslogCollector.Fanout.Basic
import SyslogCollector.Fanout.Ensemble
import SyslogCollector.Fanout.Sink
import SyslogCollector.Hub.Basic
import SyslogCollector.Hub.Error
import SyslogCollector.Hub.Session
import SyslogCollector.Hub.Step
import SyslogCollector.Hub.Subscriber
import SyslogCollector.Json.Reader
import SyslogCollector.Json.Value
import SyslogCollector.Json.Writer
import SyslogCollector.Listener.Basic
import SyslogCollector.Listener.Delivery
import SyslogCollector.Listener.Error
import SyslogCollector.Listener.Frame
import SyslogCollector.Listener.Metrics
import SyslogCollector.Listener.Session
import SyslogCollector.Listener.Step
import SyslogCollector.Main
import SyslogCollector.Message.Basic
import SyslogCollector.Message.Document
import SyslogCollector.Message.Facility
import SyslogCollector.Message.Severity
import SyslogCollector.Network.Address
import SyslogCollector.Numbered
import SyslogCollector.Proofs.Collector.Setup
import SyslogCollector.Proofs.Collector.Shutdown
import SyslogCollector.Proofs.Console.Lines
import SyslogCollector.Proofs.Fanout.Chronicle
import SyslogCollector.Proofs.Fanout.Isolation
import SyslogCollector.Proofs.Fanout.Sink
import SyslogCollector.Proofs.Framing.Arrival
import SyslogCollector.Proofs.Framing.Bytes
import SyslogCollector.Proofs.Framing.Limit
import SyslogCollector.Proofs.Framing.Sizes
import SyslogCollector.Proofs.Framing.Stream
import SyslogCollector.Proofs.Framing.Terminators
import SyslogCollector.Proofs.Framing.Wire
import SyslogCollector.Proofs.Hub.Broadcast
import SyslogCollector.Proofs.Hub.Callers
import SyslogCollector.Proofs.Hub.Calls
import SyslogCollector.Proofs.Hub.Census
import SyslogCollector.Proofs.Hub.Isolation
import SyslogCollector.Proofs.Hub.Mailbox
import SyslogCollector.Proofs.Hub.Outlook
import SyslogCollector.Proofs.Hub.Registration
import SyslogCollector.Proofs.Hub.Stopping
import SyslogCollector.Proofs.Hub.Story
import SyslogCollector.Proofs.Hub.Stream
import SyslogCollector.Proofs.Hub.Subscription
import SyslogCollector.Proofs.Hub.Tally
import SyslogCollector.Proofs.Hub.Trace
import SyslogCollector.Proofs.Influx.Documents
import SyslogCollector.Proofs.LineProtocol.Escaping
import SyslogCollector.Proofs.LineProtocol.Reading
import SyslogCollector.Proofs.LineProtocol.Records
import SyslogCollector.Proofs.LineProtocol.Unescaping
import SyslogCollector.Proofs.Listener.Accounting
import SyslogCollector.Proofs.Listener.Answers
import SyslogCollector.Proofs.Listener.Completion
import SyslogCollector.Proofs.Listener.Connection
import SyslogCollector.Proofs.Listener.Delivery
import SyslogCollector.Proofs.Listener.Draining
import SyslogCollector.Proofs.Listener.Memory
import SyslogCollector.Proofs.Listener.Trace
import SyslogCollector.Proofs.Memory.Chunks
import SyslogCollector.Proofs.Memory.Index
import SyslogCollector.Proofs.Query.Statement
import SyslogCollector.Proofs.Reader.Answer
import SyslogCollector.Proofs.Reader.LifeCycle
import SyslogCollector.Proofs.Reader.Log
import SyslogCollector.Proofs.Reader.Snapshot
import SyslogCollector.Proofs.Reader.Stock
import SyslogCollector.Proofs.Reader.TimeRange
import SyslogCollector.Proofs.Syslog.BsdForm
import SyslogCollector.Proofs.Syslog.Bytewise
import SyslogCollector.Proofs.Syslog.DataWriting
import SyslogCollector.Proofs.Syslog.Detection
import SyslogCollector.Proofs.Syslog.Grammar
import SyslogCollector.Proofs.Syslog.Header
import SyslogCollector.Proofs.Syslog.Provenance
import SyslogCollector.Proofs.Syslog.Slices
import SyslogCollector.Proofs.Syslog.StructuredData
import SyslogCollector.Proofs.Tail.Admission
import SyslogCollector.Proofs.Tail.Clientele
import SyslogCollector.Proofs.Tail.Seating
import SyslogCollector.Proofs.Tail.Serving
import SyslogCollector.Proofs.Text.ByteOrder
import SyslogCollector.Proofs.Text.Integer
import SyslogCollector.Proofs.Text.LossyReading
import SyslogCollector.Proofs.Time.Saturation
import SyslogCollector.Proofs.Writer.Batches
import SyslogCollector.Proofs.Writer.Clock
import SyslogCollector.Proofs.Writer.Closing
import SyslogCollector.Proofs.Writer.Conservation
import SyslogCollector.Proofs.Writer.Deadline
import SyslogCollector.Proofs.Writer.Flow
import SyslogCollector.Proofs.Writer.ForcedFlush
import SyslogCollector.Proofs.Writer.Interval
import SyslogCollector.Proofs.Writer.Ledger
import SyslogCollector.Proofs.Writer.Phase
import SyslogCollector.Proofs.Writer.Producers
import SyslogCollector.Proofs.Writer.Requests
import SyslogCollector.Proofs.Writer.Settling
import SyslogCollector.Proofs.Writer.Solo
import SyslogCollector.Proofs.Writer.Stations
import SyslogCollector.Proofs.Writer.Threshold
import SyslogCollector.Settings.Basic
import SyslogCollector.Settings.Check
import SyslogCollector.Settings.Document
import SyslogCollector.Settings.Error
import SyslogCollector.Sink
import SyslogCollector.Store.Backend
import SyslogCollector.Store.Error
import SyslogCollector.Store.Influx.Answer
import SyslogCollector.Store.Influx.Backend
import SyslogCollector.Store.Influx.Request
import SyslogCollector.Store.LineProtocol
import SyslogCollector.Store.Memory
import SyslogCollector.Store.Point
import SyslogCollector.Store.Reader
import SyslogCollector.Store.SeriesQuery
import SyslogCollector.Store.Writer.Basic
import SyslogCollector.Store.Writer.Session
import SyslogCollector.Store.Writer.Step
import SyslogCollector.Syslog.Error
import SyslogCollector.Syslog.Header
import SyslogCollector.Syslog.Mode
import SyslogCollector.Syslog.Rfc3164
import SyslogCollector.Syslog.Rfc5424
import SyslogCollector.Tail.Basic
import SyslogCollector.Tail.Step
import SyslogCollector.Text.Base64
import SyslogCollector.Text.Blank
import SyslogCollector.Text.CodeRanges
import SyslogCollector.Text.Decimal
import SyslogCollector.Text.DoubleRange
import SyslogCollector.Text.ExtendingMark
import SyslogCollector.Text.FormEncoding
import SyslogCollector.Text.Hexadecimal
import SyslogCollector.Text.Invisible
import SyslogCollector.Text.Lines
import SyslogCollector.Text.Literal
import SyslogCollector.Text.Unassigned
import SyslogCollector.Text.Utf8
import SyslogCollector.Time.BsdStamp
import SyslogCollector.Time.Calendar
import SyslogCollector.Time.Duration
import SyslogCollector.Time.Instant
import SyslogCollector.Time.Rfc3339
import SyslogCollector.Toml.Reader
import SyslogCollector.Toml.Scalar
import SyslogCollector.Toml.Table
import SyslogCollector.Toml.Text
import SyslogCollector.Toml.Value
