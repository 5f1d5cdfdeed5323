import ChangeLog.Binary64.Basic
import ChangeLog.Binary64.Shortest
import ChangeLog.Bytes.Hex
import ChangeLog.Bytes.Le
import ChangeLog.Checksum.Crc32
import ChangeLog.Cli.Commands
import ChangeLog.Cli.Failure
import ChangeLog.Cli.Fault
import ChangeLog.Cli.Grammar
import ChangeLog.Cli.Interface
import ChangeLog.Cli.Parser
import ChangeLog.Cli.Usage
import ChangeLog.Disk.Basic
import ChangeLog.Disk.Damage
import ChangeLog.Encoding.Binary
import ChangeLog.Event.Basic
import ChangeLog.Hash.Blake3
import ChangeLog.Http.Form
import ChangeLog.Http.Media
import ChangeLog.Http.Target
import ChangeLog.Ident.Consumer
import ChangeLog.Ident.Cursor
import ChangeLog.Ident.Error
import ChangeLog.Ident.EventId
import ChangeLog.Ident.Uuid
import ChangeLog.Journal.Basic
import ChangeLog.Journal.Frame
import ChangeLog.Json.Reader
import ChangeLog.Json.Record
import ChangeLog.Json.Value
import ChangeLog.Main
import ChangeLog.Net.Address
import ChangeLog.Progress.Map
import ChangeLog.Progress.Record
import ChangeLog.Progress.Store
import ChangeLog.Script.Answer
import ChangeLog.Script.Cli
import ChangeLog.Script.Fields
import ChangeLog.Script.Http
import ChangeLog.Script.Ids
import ChangeLog.Script.Journal
import ChangeLog.Script.Progress
import ChangeLog.Script.Run
import ChangeLog.Script.Server
import ChangeLog.Script.Session
import ChangeLog.Script.Steps
import ChangeLog.Script.Stores
import ChangeLog.Script.Stream
import ChangeLog.Server.Api
import ChangeLog.Server.Config
import ChangeLog.Server.Error
import ChangeLog.Server.Request
import ChangeLog.Server.Router
import ChangeLog.Store.Error
import ChangeLog.Store.Events
import ChangeLog.Store.Within
import ChangeLog.Stream.Acks
import ChangeLog.Stream.Basic
import ChangeLog.Stream.Cursor
import ChangeLog.Stream.Error
import ChangeLog.Stream.Replay
import ChangeLog.Text.Number
import ChangeLog.Text.Quoted
import ChangeLog.Time.Civil
import ChangeLog.Time.Instant
import ChangeLog.Time.Rfc3339
import ChangeLog.Toml.Document
import ChangeLog.Toml.Reader
import ChangeLog.Toml.Report
import ChangeLog.Toml.Value
import ChangeLog.Toml.Writer
import ChangeLog.Unicode.GraphemeExtend
import ChangeLog.Unicode.Printable
import ChangeLog.Unicode.WhiteSpace
import ChangeLog.Proofs.Journal.Walk
import ChangeLog.Proofs.Journal.Recovery
import ChangeLog.Proofs.Journal.Cut
import ChangeLog.Proofs.Stream.Calls
import ChangeLog.Proofs.Stream.Delivery
import ChangeLog.Proofs.Stream.Progress
import ChangeLog.Proofs.Progress.Store
import ChangeLog.Proofs.Stream.Tracker
import ChangeLog.Proofs.Stream.Slots
import ChangeLog.Proofs.Stream.Atomic
import ChangeLog.Proofs.Time.Calendar
import ChangeLog.Proofs.Time.Rfc3339
import ChangeLog.Proofs.Journal.Records
import ChangeLog.Proofs.Disk.Paths
import ChangeLog.Proofs.Journal.Open
import ChangeLog.Proofs.Stream.Durable
import ChangeLog.Proofs.Stream.Restart
import ChangeLog.Proofs.Store.Contract
import ChangeLog.Proofs.Journal.Clean
import ChangeLog.Proofs.Progress.Replay
import ChangeLog.Proofs.Journal.Apart
import ChangeLog.Proofs.Stream.Reopen
import ChangeLog.Proofs.Stream.Hosted
import ChangeLog.Proofs.Cli.Invocation
import ChangeLog.Proofs.Cli.Session
import ChangeLog.Proofs.Stream.Closed
import ChangeLog.Proofs.Stream.Replay
import ChangeLog.Proofs.Progress.Recovery
import ChangeLog.Proofs.Event.Preimage
import ChangeLog.Proofs.Bytes.Hex
import ChangeLog.Proofs.Event.Record
