import ChangeLog.Server.Api
import ChangeLog.Server.Request
import ChangeLog.Http.Form
import ChangeLog.Http.Media
/-
  The server over a change stream, answering HTTP requests. A request is routed by its
  path, whose parameters are percent-decoded after matching; a path that matches no route
  is not found, and a method the route does not take is not allowed. The parts of a request
  are then read in order (path, query, body) and a part that does not read is refused with
  a plain-text message; the handler then runs, and its failures answer in JSON by kind.

  A read that finds nothing, with a wait and a count above zero, waits for an append up to
  the smaller of its wait and the server's longest; the answer then says how long it waits
  and what it answers if nothing comes.
-/

namespace ChangeLog

open Json Http

/-- A request as the server sees it. -/
structure Request where
  method : String
  target : Target
  contentType : Option String := none
  body : String := ""

/-- The body of a response. -/
inductive Body where
  | empty
  | json (v : Value)
  | text (s : String)

/-- A response. -/
structure Response where
  status : Nat
  body : Body

/-- The answer to a request: now, or after a wait for an append. -/
inductive Reply where
  | now (r : Response)
  /-- The read waits up to this many milliseconds; with no append it answers the response. -/
  | waits (ms : Nat) (r : Response)

/-- A running server. -/
structure Server where
  stream : ChangeStream
  config : ServerConfig

/-- What a request may use that the server does not hold: the time and the next cursor id. -/
structure Context where
  now : Instant
  nextCursor : CursorId

/-- The routes of the server, with their raw parameters. -/
inductive Route where
  | events
  | event (offset : String)
  | subscriptions
  | subscription (id : String)
  | subscriptionInfo (id : String)
  | consumers
  | consumerAck (id : String)
  | consumerProgress (id : String)
  | health
  | info

namespace Route

/-- The route of a raw path. -/
def ofPath? (path : String) : Option Route :=
  let param (s : String) : Option String := if s.isEmpty then none else some s
  match path.splitOn "/" with
  | ["", "events"] => some .events
  | ["", "events", o] => (param o).map .event
  | ["", "subscriptions"] => some .subscriptions
  | ["", "subscriptions", i] => (param i).map .subscription
  | ["", "subscriptions", i, "info"] => (param i).map .subscriptionInfo
  | ["", "consumers"] => some .consumers
  | ["", "consumers", i, "ack"] => (param i).map .consumerAck
  | ["", "consumers", i, "progress"] => (param i).map .consumerProgress
  | ["", "v1", "health"] => some .health
  | ["", "v1", "info"] => some .info
  | _ => none

/-- Whether a route takes a method; a route that takes GET also takes HEAD. -/
def allows (r : Route) (method : String) : Bool :=
  let get := method = "GET" || method = "HEAD"
  match r with
  | .events => method = "POST" || get
  | .subscriptions | .consumerAck _ => method = "POST"
  | .subscription _ => get || method = "DELETE"
  | .event _ | .subscriptionInfo _ | .consumers | .consumerProgress _ | .health | .info => get

end Route

namespace Server

/-- A JSON response. -/
def json (status : Nat) (v : Value) : Response := ⟨status, .json v⟩

/-- A plain-text refusal of a part of a request. -/
def rejection (status : Nat) (text : String) : Response := ⟨status, .text text⟩

/-- The response of a failure. -/
def failed (e : ServerError) : Response := json e.status (Api.errorView e)

/-- A handler: it may fail with a server error. -/
abbrev Handler (α : Type) := Within Server ServerError α

/-- Runs a stream operation inside the server. -/
def onStream {α : Type} (m : Within ChangeStream StreamError α) : Handler α :=
  Within.focus (·.stream) (fun s st => { s with stream := st }) (Within.mapError ServerError.stream m)

/-- Takes a result, or fails with its error. -/
def lift {α : Type} (r : Except ServerError α) : Handler α :=
  match r with
  | .ok a => pure a
  | .error e => throw e

/-- An offset from a signed number: a negative one is out of range. -/
def offset (raw : Int) : Except ServerError Nat :=
  if raw < 0 then .error (.negativeOffset raw) else .ok raw.toNat

/-- A cursor id from a path: one that does not read is unknown. -/
def cursorOf (raw : String) : Except ServerError CursorId :=
  match CursorId.ofText raw with
  | .ok id => .ok id
  | .error _ => .error (.unknownCursor raw)

/-- A consumer from a path. -/
def consumerOf (raw : String) : Except ServerError ConsumerId :=
  match ConsumerId.ofText raw with
  | .ok c => .ok c
  | .error e => .error (.stream (.invalidConsumer e))

/-- Whether a Content-Type header names JSON. -/
def isJsonType (ct : String) : Bool :=
  match MediaType.parse ct with
  | some m => m.isJson
  | none => false

/-- Reads the body of an append request as JSON, or refuses it. -/
def appendBody (req : Request) : Except Response AppendRequest :=
  if !(req.contentType.any isJsonType) then
    .error (rejection 415 "Expected request with `Content-Type: application/json`")
  else
    let bytes := req.body.toUTF8
    -- the body is read as far as its value goes; text after it is not looked at
    match Reader.runLeading (Reader.record "AppendRequest" AppendRequest.fields) bytes with
    | .ok fs => .ok (AppendRequest.ofFields fs)
    | .error e =>
      if e.fault.isData then
        .error (rejection 422 ("Failed to deserialize the JSON body into the target type: " ++
          e.pathMessage bytes))
      else .error (rejection 400 ("Failed to parse the request body as JSON: " ++ e.pathMessage bytes))

/-- Reads a query, or refuses it. -/
def query (req : Request) (fields : List QueryField) : Except Response (List (String × QueryValue)) :=
  match readQuery fields req.target.query with
  | .ok vs => .ok vs
  | .error m => .error (rejection 400 ("Failed to deserialize query string: " ++ m))

/-- A path parameter, percent-decoded; one that does not decode to UTF-8 is refused by the
name of the parameter. -/
def param (key raw : String) : Except Response String :=
  match percentDecode? raw with
  | some s => .ok s
  | none => .error (rejection 400 ("Invalid URL: Invalid UTF-8 in `" ++ key ++ "`"))

/-- Runs a handler whose failures answer in JSON. -/
def answer (h : Handler Response) : Handler Response :=
  tryCatch h fun e => pure (failed e)

/-- Appends an event. -/
def appendEvent (ctx : Context) (r : AppendRequest) : Handler Response := answer do
  let e ← lift r.toNewEvent
  let stored ← onStream (ChangeStream.append e ctx.now)
  pure (json 201 (.obj [("offset", .nat stored.offset), ("event_id", .str stored.id.toHex)]))

/-- Replays a range of events, or the events from an offset. -/
def replay (vs : List (String × QueryValue)) : Handler Response := answer do
  let lo ← lift (offset ((intField? vs "from").getD 0))
  let events ← match intField? vs "to" with
    | some hi => do
      let hi ← lift (offset hi)
      onStream (ChangeStream.replay lo hi)
    | none => onStream (ChangeStream.replayFrom lo)
  pure (json 200 (Api.eventsView events))

/-- The event at an offset. -/
def getEvent (raw : Int) : Handler Response := answer do
  let o ← lift (offset raw)
  let s ← Within.current
  let e ← lift ((s.stream.get o).mapError ServerError.stream)
  pure (json 200 (Api.eventView e))

/-- Opens a cursor. -/
def subscribe (ctx : Context) (vs : List (String × QueryValue)) : Handler Response := answer do
  let lo ← lift (offset ((intField? vs "from").getD 0))
  onStream (ChangeStream.subscribe ctx.nextCursor lo (textField? vs "owner"))
  pure (json 201 (.obj [("cursor_id", .str ctx.nextCursor.toText), ("position", .nat lo)]))

/-- Reads a batch from a cursor; an empty batch may wait. -/
def read (raw : String) (vs : List (String × QueryValue)) (mayWait : Bool) : Handler Reply := do
  match cursorOf raw with
  | .error e => pure (.now (failed e))
  | .ok id =>
    let s ← Within.current
    let max := match intField? vs "max" with
      | some m => m.toNat
      | none => s.config.maxReadBatch
    let waitMs := ((intField? vs "wait_ms").getD 0).toNat
    tryCatch (do
      let (events, pos) ← onStream (ChangeStream.readBatch id max)
      let r := json 200 (.obj [("events", .arr (events.map Api.eventView)), ("position", .nat pos)])
      if mayWait && events.isEmpty && waitMs > 0 && max > 0 then
        pure (.waits (min waitMs s.config.longPollMaxMs) r)
      else pure (.now r))
      fun e => pure (.now (failed e))

/-- The state of a cursor. -/
def cursorInfo (raw : String) : Handler Response := answer do
  let id ← lift (cursorOf raw)
  let c ← onStream (ChangeStream.cursorInfo id)
  pure (json 200 (Api.cursorView id c))

/-- Closes a cursor. -/
def unsubscribe (raw : String) : Handler Response := answer do
  let id ← lift (cursorOf raw)
  onStream (ChangeStream.unsubscribe id)
  pure ⟨204, .empty⟩

/-- A consumer's progress as answered. -/
def progressOf (c : ConsumerId) : Handler Response := do
  let acked ← onStream (ChangeStream.progress c)
  pure (json 200 (Api.progressView c acked))

/-- Acknowledges an offset for a consumer. -/
def ack (raw : String) (vs : List (String × QueryValue)) : Handler Response := answer do
  let c ← lift (consumerOf raw)
  let o ← lift (offset ((intField? vs "offset").getD 0))
  let _ ← onStream (ChangeStream.acknowledge c o)
  progressOf c

/-- A consumer's progress. -/
def progress (raw : String) : Handler Response := answer do
  let c ← lift (consumerOf raw)
  progressOf c

/-- All consumers with progress. -/
def consumers : Handler Response := answer do
  let all ← onStream ChangeStream.consumers
  pure (json 200 (.obj [("consumers", .arr (all.map fun (c, o) => Api.progressView c (some o)))]))

/-- Whether the server still takes requests. -/
def health : Handler Response := do
  let s ← Within.current
  let closed := s.stream.isClosed
  pure (json (if closed then 503 else 200) (Api.healthView closed))

/-- The state of the server. -/
def info : Handler Response := do
  let s ← Within.current
  pure (json 200 (Api.infoView s.stream.stats s.config.maxReadBatch))

/-- Runs a handler after reading a part of the request. -/
def withPart {α : Type} (r : Except Response α) (k : α → Handler Reply) : Handler Reply :=
  match r with
  | .ok a => k a
  | .error resp => pure (.now resp)

/-- Answers now with the response of a handler. -/
def replyNow (h : Handler Response) : Handler Reply := do return .now (← h)

/-- The fields of the query of an append-free replay. -/
def replayFields : List QueryField := [⟨"from", .signed, true⟩, ⟨"to", .signed, false⟩]

/-- The fields of the query of a subscription. -/
def subscribeFields : List QueryField := [⟨"from", .signed, false⟩, ⟨"owner", .text, false⟩]

/-- The fields of the query of a read. -/
def readFields : List QueryField := [⟨"max", .unsigned, false⟩, ⟨"wait_ms", .unsigned, false⟩]

/-- The fields of the query of an acknowledgment. -/
def ackFields : List QueryField := [⟨"offset", .signed, true⟩]

/-- Answers a request; a read may wait when asked to. -/
def handle (ctx : Context) (req : Request) (mayWait : Bool := true) : Handler Reply :=
  match Route.ofPath? req.target.path with
  | none => pure (.now ⟨404, .empty⟩)
  | some route =>
    if !route.allows req.method then pure (.now ⟨405, .empty⟩)
    else
      match route with
      | .events =>
        if req.method = "POST" then withPart (appendBody req) fun r => replyNow (appendEvent ctx r)
        else withPart (query req replayFields) fun vs => replyNow (replay vs)
      | .event raw => withPart (param "offset" raw) fun p =>
        match readSigned p with
        | .ok o => replyNow (getEvent o)
        | .error _ =>
          pure (.now (rejection 400 ("Invalid URL: Cannot parse `" ++ Text.quote p ++ "` to a `i64`")))
      | .subscriptions => withPart (query req subscribeFields) fun vs => replyNow (subscribe ctx vs)
      | .subscription raw => withPart (param "id" raw) fun p =>
        if req.method = "DELETE" then replyNow (unsubscribe p)
        else withPart (query req readFields) fun vs => read p vs mayWait
      | .subscriptionInfo raw => withPart (param "id" raw) fun p => replyNow (cursorInfo p)
      | .consumers => replyNow consumers
      | .consumerAck raw => withPart (param "id" raw) fun p =>
        withPart (query req ackFields) fun vs => replyNow (ack p vs)
      | .consumerProgress raw => withPart (param "id" raw) fun p => replyNow (progress p)
      | .health => replyNow health
      | .info => replyNow info

/-- Opens the server's stream: over the durable stores of the data directory, or in memory. -/
def openWith (config : ServerConfig) : OnDisk ServerError Server := do
  match ServerConfig.validate config with
  | .error e => throw e
  | .ok _ => pure ()
  let streamConfig : StreamConfig := ⟨config.maxReadBatch⟩
  match config.dataDir with
  | some dir =>
    let events ← EStateM.adaptExcept ServerError.ofStore (EventStore.openDir dir config.syncMode)
    let progress ← EStateM.adaptExcept ServerError.ofStore (ProgressStore.openDir dir config.syncMode)
    let st ← EStateM.adaptExcept ServerError.stream (ChangeStream.openWith events progress streamConfig)
    pure ⟨st, config⟩
  | none =>
    let st ← EStateM.adaptExcept ServerError.stream (ChangeStream.openWith {} {} streamConfig)
    pure ⟨st, config⟩

/-- Whether the server can listen on an address: IPv4 loopback or any address. -/
def canBind : SocketAddr → Bool
  | .v4 [127, _, _, _] _ => true
  | .v4 [0, 0, 0, 0] _ => true
  | _ => false

/-- Listens, serves until shutdown, then closes the stream. -/
def serve : Handler Unit := do
  let s ← Within.current
  if !canBind s.config.bindAddr then throw (.io .addressUnavailable)
  onStream ChangeStream.close

end Server
end ChangeLog
