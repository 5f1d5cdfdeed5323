import ChangeLog.Script.Progress
import ChangeLog.Server.Config
import ChangeLog.Server.Request
/-
  Commands on the server's parts that need no running server: reading append requests
  and configurations.
-/

namespace ChangeLog.Script

open Json

/-- The answer of a server failure. -/
def serverFailure (i : Issued) (e : ServerError) : Value :=
  obj [("error", .str e.name), ("kind", .str e.kind.name), ("status", .nat e.status),
    ("message", .str (i.mask e.message))]

/-- An append request read and turned into a new event. -/
def appendRequestAnswer (f : Fields) : Value :=
  match f.get? "json" with
  | none => badInput "field `json` is missing"
  | some v =>
    match AppendRequest.ofJson v with
    | .error m => failure "Deserialize" m
    | .ok r =>
      match r.toNewEvent with
      | .error e => serverFailure {} e
      | .ok e => obj [("event_type", .str e.eventType), ("source", .str e.source),
          ("before", .str (Hex.encode e.before)), ("after", .str (Hex.encode e.after))]

/-- A configuration as shown. -/
def configView (c : ServerConfig) : Value :=
  obj [("bind_addr", .str c.bindAddr.toText), ("data_dir", .strOpt c.dataDir),
    ("sync_mode", .str c.syncMode.name), ("max_read_batch", .nat c.maxReadBatch),
    ("long_poll_max_ms", .nat c.longPollMaxMs), ("stream_max_read_batch", .nat c.maxReadBatch),
    ("toml", .str c.toToml)]

/-- A configuration read from TOML text. -/
def configTomlAnswer (f : Fields) : Value :=
  withFields (f.str "text") fun text =>
    match ServerConfig.ofToml text with
    | .ok c => configView c
    | .error e => serverFailure {} e

/-- A configuration read from a file holding TOML text, or from a missing file. -/
def configFileAnswer (f : Fields) : Value :=
  withFields (do pure (← f.flag "missing", ← f.str "text" (some ""))) fun (missing, text) =>
    let path := Disk.join scratch "config.toml"
    let d := if missing then Disk.fresh
      else (Disk.fresh.createFile path).1.setBlob (Disk.fresh.createFile path).2 text.toUTF8.toList
    match ServerConfig.ofFile d path with
    | .ok c => configView c
    | .error e => serverFailure {} e

end ChangeLog.Script
