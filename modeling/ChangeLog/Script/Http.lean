import ChangeLog.Script.Server
import ChangeLog.Server.Router
/-
  Sessions of HTTP requests against a server over a fresh stream. A request names a
  method and a target, where {cN} stands for the id of the N-th cursor opened, and may send
  a JSON value, written with its keys in order, or raw text. Answers show the status and the
  body; in bodies, cursor ids are shown by their handles, times as <ts>, and event ids by
  whether they are the hash of the event's fields.
-/

namespace ChangeLog.Script

open Json

mutual

/-- A value with the keys of every object in order, the last of a repeated key kept. -/
def sortKeys : Value → Value
  | .arr items => .arr (sortItems items)
  | .obj fields => .obj (sortFields (sortEntries fields))
  | v => v

/-- Items with their keys in order. -/
def sortItems : List Value → List Value
  | [] => []
  | v :: rest => sortKeys v :: sortItems rest

/-- Fields with the keys of their values in order. -/
def sortEntries : List (String × Value) → List (String × Value)
  | [] => []
  | (k, v) :: rest => (k, sortKeys v) :: sortEntries rest

end

/-- Whether a text is 64 lowercase hexadecimal digits. -/
def isIdText (s : String) : Bool :=
  s.length = 64 && s.all fun c => c.isDigit || ('a' ≤ c && c ≤ 'f')

/-- How an event id in an object is shown: by whether it is the hash of the fields beside it. -/
def idMark (fields : List (String × Value)) (id : String) : String :=
  match fields.lookup "offset", fields.lookup "event_type", fields.lookup "source",
      fields.lookup "timestamp" with
  | some (.int o), some (.str ty), some (.str src), some (.str ts) =>
    match Rfc3339.parse ts with
    | some t =>
      if (ChangeEvent.computeId ty src t o.toNat).toHex = id then "<valid>" else "<invalid>"
    | none => if isIdText id then "<id>" else id
  | _, _, _, _ => if isIdText id then "<id>" else id

mutual

/-- A body as shown. -/
def maskValue (i : Issued) : Value → Value
  | .arr items => .arr (maskItems i items)
  | .obj fields => .obj (maskFields i fields fields)
  | v => v

/-- Items as shown. -/
def maskItems (i : Issued) : List Value → List Value
  | [] => []
  | v :: rest => maskValue i v :: maskItems i rest

/-- Fields as shown, knowing all the fields of their object. -/
def maskFields (i : Issued) (all : List (String × Value)) : List (String × Value) → List (String × Value)
  | [] => []
  | (k, v) :: rest =>
    let v' := match k, v with
      | "cursor_id", .str s => .str (i.mask s)
      | "timestamp", .str s => if (Rfc3339.parse s).isSome then .str "<ts>" else .str s
      | "event_id", .str s => .str (idMark all s)
      | "message", .str s => .str (i.mask s)
      | _, v => maskValue i v
    (k, v') :: maskFields i all rest

end

/-- A response as shown. -/
def responseView (i : Issued) (head : Bool) (r : Response) : Value :=
  match r.body, head with
  | _, true | .empty, _ => obj [("status", .nat r.status)]
  | .json v, _ => obj [("status", .nat r.status), ("body", maskValue i v)]
  | .text t, _ => obj [("status", .nat r.status), ("text", .str t)]

/-- Characters of a method name. -/
def isMethodChar (c : Char) : Bool := c.isAlphanum || "!#$%&'*+-.^_`|~".toList.contains c

/-- A target with the handles of opened cursors replaced by their ids. -/
def Issued.expand (i : Issued) (uri : String) : String :=
  (List.range i.cursors).foldl (fun u n => u.replace ("\x7b" ++ Issued.handle n ++ "\x7d")
    (Issued.cursor n).toText) uri

/-- A request a step describes, or why it is malformed. -/
def Issued.request (i : Issued) (f : Fields) : Except String Request := do
  let method ← f.str "method" (some "GET")
  let uri ← f.str "uri" (some "/")
  if method.isEmpty || !method.all isMethodChar then throw "invalid request: invalid HTTP method"
  let target ← match Http.Target.parse (i.expand uri) with
    | .ok t => pure t
    | .error m => throw ("invalid request: " ++ m)
  match f.get? "json" with
  | some v => pure { method, target, contentType := some "application/json", body := (sortKeys v).compact }
  | none =>
    let body ← f.str "body" (some "")
    let ct ← f.optStr "content_type"
    pure { method, target, contentType := ct, body }

/-- A session of requests. -/
structure HttpSession where
  disk : Disk
  server : Server
  issued : Issued := {}

namespace HttpSession

/-- Runs a request, noting the cursor it opened and moving the clock. -/
def run (s : HttpSession) (limited : Bool) (req : Request) (mayWait : Bool) : HttpSession × Reply :=
  let ctx : Context := ⟨s.issued.now, s.issued.nextCursor⟩
  match (Server.handle ctx req mayWait).run' s.server { s.disk with limited := limited } with
  | (r, server, d) =>
    let reply := match r with
      | .ok reply => reply
      | .error e => .now (Server.failed e)
    let opened := (server.stream.cursors.find? ctx.nextCursor).isSome &&
      (s.server.stream.cursors.find? ctx.nextCursor).isNone
    let issued := { s.issued with ticks := s.issued.ticks + 1 }
    let issued := if opened then issued.opened else issued
    ({ s with server, disk := { d with limited := false }, issued }, reply)

/-- The response of a reply that is not awaited. -/
def Reply.response : Reply → Response
  | .now r => r
  | .waits _ r => r

/-- Answers one step of the session. -/
def step (s : HttpSession) (f : Fields) : HttpSession × Value :=
  match f.flag "disk_full", f.flag "close", f.sub? "long_poll" with
  | .error m, _, _ | _, .error m, _ => (s, badInput m)
  | .ok _, .ok true, _ =>
    match ChangeStream.close.run' s.server.stream s.disk with
    | (.ok (), st, d) => ({ s with server := { s.server with stream := st }, disk := d }, okay)
    | (.error e, st, d) => ({ s with server := { s.server with stream := st }, disk := d },
        streamFailure s.issued d e)
  | .ok limited, .ok false, some lp =>
    match lp.str "uri", lp.u64 "delay_ms" (some 50) with
    | .error m, _ | _, .error m => (s, badInput m)
    | .ok uri, .ok delay =>
      match Http.Target.parse (s.issued.expand uri) with
      | .error m => (s, badInput ("invalid request: " ++ m))
      | .ok target =>
        let readReq : Request := { method := "GET", target }
        let appendBody := ((lp.get? "append").map fun v => (sortKeys v).compact).getD "\x7b\x7d"
        let appendReq : Request :=
          { method := "POST", target := ⟨"/events", none⟩, contentType := some "application/json",
            body := appendBody }
        let (s1, first) := s.run limited readReq true
        let (sEnd, readResp, appendResp) := match first with
          | .waits ms _ =>
            if ms > delay then
              let (s2, a) := s1.run limited appendReq false
              let (s3, r) := s2.run limited readReq false
              (s3, Reply.response r, Reply.response a)
            else
              let (s2, a) := s1.run limited appendReq false
              (s2, Reply.response first, Reply.response a)
          | .now r =>
            let (s2, a) := s1.run limited appendReq false
            (s2, r, Reply.response a)
        (sEnd, obj [("read", responseView sEnd.issued false readResp),
          ("append", responseView sEnd.issued false appendResp)])
  | .ok limited, .ok false, none =>
    match s.issued.request f with
    | .error m => (s, badInput m)
    | .ok req =>
      let (s', reply) := s.run limited req true
      (s', responseView s'.issued (req.method = "HEAD") (Reply.response reply))

end HttpSession

/-- The configuration a command gives its server. -/
def Fields.serverConfig (f : Fields) (dataDir : Option String) : Except String ServerConfig := do
  let maxReadBatch ← f.u64 "max_read_batch" (some 100)
  let longPollMaxMs ← f.u64 "long_poll_max_ms" (some 30000)
  let syncMode ← f.syncMode
  pure { maxReadBatch, longPollMaxMs, syncMode, dataDir }

/-- The answer of a session of HTTP requests. -/
def httpAnswer (f : Fields) : Value :=
  let config := (f.sub? "config").getD ⟨.obj []⟩
  match config.flag "durable", f.list "requests" with
  | .error m, _ | _, .error m => badInput m
  | .ok durable, .ok requests =>
    match config.serverConfig (if durable then some scratch else none) with
    | .error m => badInput m
    | .ok c =>
      match (Server.openWith c).run Disk.fresh with
      | .error e _ => openFailure (serverFailure {} e)
      | .ok server d =>
        obj [("open", okay),
          ("responses", .arr (runSteps HttpSession.step ⟨d, server, {}⟩ requests))]

/-- A server opened and served until it is told to stop, and the stream afterwards. -/
def serveImmediateAnswer (f : Fields) : Value :=
  match f.str "bind_addr" (some "127.0.0.1:0"), f.serverConfig none with
  | .error m, _ | _, .error m => badInput m
  | .ok bind, .ok c =>
    match SocketAddr.parse? bind with
    | none => badInput ("invalid bind_addr " ++ bind)
    | some addr =>
      match (Server.openWith { c with bindAddr := addr }).run Disk.fresh with
      | .error e _ => openFailure (serverFailure {} e)
      | .ok server d =>
        let closedBefore := server.stream.isClosed
        let (served, server, d) := Server.serve.run' server d
        let servedView := match served with
          | .ok () => okay
          | .error e => serverFailure {} e
        let closedAfter := server.stream.isClosed
        let issued : Issued := {}
        let appendAfter := match (ChangeStream.append { eventType := "after" } issued.now).run' server.stream d with
          | (.ok _, _, _) => okay
          | (.error e, _, d') => streamFailure issued d' e
        obj [("served", servedView), ("closed_before", .bool closedBefore),
          ("closed_after", .bool closedAfter), ("append_after", appendAfter)]

end ChangeLog.Script
