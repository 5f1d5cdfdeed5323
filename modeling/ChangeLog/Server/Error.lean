import ChangeLog.Stream.Error
/-
  The failures of the server, each of a stream kind and so of an HTTP status: stream
  failures keep their kind; a negative offset is out of range; an unknown cursor is not
  found; a bad request is an invalid argument; configuration, medium and internal failures
  are internal.
-/

namespace ChangeLog

/-- Why the server refused a request or could not start. -/
inductive ServerError where
  | stream (e : StreamError)
  | negativeOffset (offset : Int)
  | unknownCursor (text : String)
  | badRequest (text : String)
  | config (text : String)
  | io (e : IoError)
  | internal (text : String)

namespace ServerError

/-- A store failure seen by the server, through the stream. -/
def ofStore (e : StoreError) : ServerError := .stream (.ofStore e)

/-- The name of the failure. -/
def name : ServerError → String
  | .stream _ => "Stream"
  | .negativeOffset _ => "NegativeOffset"
  | .unknownCursor _ => "UnknownCursor"
  | .badRequest _ => "BadRequest"
  | .config _ => "Config"
  | .io _ => "Io"
  | .internal _ => "Internal"

/-- The kind of the failure. -/
def kind : ServerError → ErrorKind
  | .stream e => e.kind
  | .negativeOffset _ => .outOfRange
  | .unknownCursor _ => .notFound
  | .badRequest _ => .invalidArgument
  | .config _ | .io _ | .internal _ => .internal

/-- The HTTP status of a kind of failure. -/
def statusOf : ErrorKind → Nat
  | .outOfRange => 416
  | .notFound => 404
  | .invalidRange => 400
  | .invalidArgument => 422
  | .closed => 503
  | .internal => 500

/-- The HTTP status of the failure. -/
def status (e : ServerError) : Nat := statusOf e.kind

/-- The text of the failure. -/
def message : ServerError → String
  | .stream e => e.message
  | .negativeOffset o => "offset " ++ toString o ++ " is out of range"
  | .unknownCursor t => "cursor " ++ t ++ " not found"
  | .badRequest t => "invalid request: " ++ t
  | .config t => "configuration error: " ++ t
  | .io e => "I/O error: " ++ e.message
  | .internal t => "internal error: " ++ t

end ServerError
end ChangeLog
