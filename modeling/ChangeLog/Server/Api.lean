import ChangeLog.Server.Config
import ChangeLog.Stream.Basic
import ChangeLog.Time.Rfc3339
import ChangeLog.Json.Value
/-
  The JSON bodies the server answers with: events with their ids and images in
  hexadecimal and their times in RFC 3339, cursors, consumer progress with the offset to
  resume from, the state of the server, and failures by kind and message.
-/

namespace ChangeLog.Api

open Json

/-- The name the server gives itself. -/
def serverName : String := "clog-server"

/-- The version the server reports. -/
def serverVersion : String := "0.1.0"

/-- An event as the server shows it. -/
def eventView (e : ChangeEvent) : Value :=
  .obj [("offset", .nat e.offset), ("event_id", .str e.id.toHex), ("event_type", .str e.eventType),
    ("before", .str (Hex.encode e.before)), ("after", .str (Hex.encode e.after)),
    ("source", .str e.source), ("timestamp", .str (Rfc3339.format .offset e.timestamp))]

/-- A list of events. -/
def eventsView (es : List ChangeEvent) : Value := .obj [("events", .arr (es.map eventView))]

/-- A consumer's progress and where it resumes. -/
def progressView (c : ConsumerId) (acked : Option Nat) : Value :=
  .obj [("consumer", .str c.raw), ("acknowledged_offset", .natOpt acked),
    ("resume_offset", .nat (match acked with | some o => o + 1 | none => 0))]

/-- A cursor's state. -/
def cursorView (id : CursorId) (c : Cursor) : Value :=
  .obj [("cursor_id", .str id.toText), ("owner", .strOpt c.owner),
    ("from_offset", .nat c.fromOffset), ("position", .nat c.position)]

/-- The server's state. -/
def infoView (s : StreamStats) (maxReadBatch : Nat) : Value :=
  .obj [("name", .str serverName), ("version", .str serverVersion),
    ("next_offset", .nat s.nextOffset), ("open_cursors", .nat s.openCursors),
    ("tracked_consumers", .nat s.trackedConsumers), ("max_read_batch", .nat maxReadBatch)]

/-- Whether the server still takes requests. -/
def healthView (closed : Bool) : Value :=
  .obj [("status", .str (if closed then "closed" else "ok")), ("closed", .bool closed)]

/-- A failure as the server shows it. -/
def errorView (e : ServerError) : Value :=
  .obj [("error", .str e.kind.name), ("message", .str e.message)]

end ChangeLog.Api
