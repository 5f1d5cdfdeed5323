import ChangeLog.Server.Error
import ChangeLog.Json.Record
import ChangeLog.Event.Basic
/-
  The body of an append request: an event type, which must be given, and a source and two
  images in hexadecimal, which default to empty. Turning it into a new event decodes the
  images; an image that is not hexadecimal makes the request bad, naming the field.
-/

namespace ChangeLog

/-- An append request as sent. -/
structure AppendRequest where
  eventType : String
  before : String := ""
  after : String := ""
  source : String := ""

namespace AppendRequest

/-- The fields of a request, with which may be left out. -/
def fields : List Json.FieldSpec :=
  [⟨"event_type", false⟩, ⟨"before", true⟩, ⟨"after", true⟩, ⟨"source", true⟩]

/-- Builds a request from its fields by name. -/
def ofFields (fs : List (String × String)) : AppendRequest :=
  let get (k : String) := ((fs.find? (·.1 = k)).map (·.2)).getD ""
  ⟨get "event_type", get "before", get "after", get "source"⟩

/-- Reads a request from a JSON value. -/
def ofJson (v : Json.Value) : Except String AppendRequest :=
  (v.toRecord "AppendRequest" fields).map ofFields

/-- Decodes an image of a request. -/
def payload (field text : String) : Except ServerError Bytes :=
  match Hex.decode text with
  | .ok bs => .ok bs
  | .error e => .error (.badRequest (field ++ ": " ++ e.message))

/-- The new event a request asks for. -/
def toNewEvent (r : AppendRequest) : Except ServerError NewEvent := do
  let before ← payload "before" r.before
  let after ← payload "after" r.after
  pure { eventType := r.eventType, source := r.source, before, after }

end AppendRequest
end ChangeLog
