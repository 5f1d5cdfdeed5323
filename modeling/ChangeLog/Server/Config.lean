import ChangeLog.Server.Error
import ChangeLog.Toml.Report
import ChangeLog.Toml.Writer
import ChangeLog.Net.Address
import ChangeLog.Journal.Basic
import ChangeLog.Binary64.Shortest
/-
  The server's configuration: where it listens, where it keeps its data (in memory when no
  directory is given), how the journals sync, the largest read batch, and the longest wait
  of a read. It is read from TOML: every key may be left out, keys the configuration does
  not know are passed over, and a key of the wrong kind is refused with the span of its
  value. A batch of zero is refused after reading.
-/

namespace ChangeLog

/-- The settings of the server. -/
structure ServerConfig where
  bindAddr : SocketAddr := .defaultBind
  dataDir : Option String := none
  syncMode : SyncMode := .osDefault
  maxReadBatch : Nat := 100
  longPollMaxMs : Nat := 30000

namespace Toml

/-- How a value is named when it is not what was expected. -/
def Value.unexpected : Value → String
  | .string s => "string " ++ Text.quote s
  | .integer i => "integer `" ++ toString i ++ "`"
  | .float x => "floating point `" ++ x.pointText ++ "`"
  | .boolean b => "boolean `" ++ toString b ++ "`"
  | .datetime _ | .table _ => "map"
  | .array _ => "sequence"

end Toml

namespace ServerConfig

open Toml

/-- A refusal of a value for a key, placed at the value. -/
abbrev Refusal := Report

/-- A value of the wrong kind. -/
def invalidType (e : Entry) (expected : String) : Refusal :=
  ⟨"invalid type: " ++ e.value.unexpected ++ ", expected " ++ expected, some e.span⟩

/-- A non-negative integer for a key. -/
def natural (e : Entry) (expected : String) : Except Refusal Nat :=
  match e.value with
  | .integer i =>
    if i < 0 then .error ⟨"invalid value: integer `" ++ toString i ++ "`, expected " ++ expected,
      some e.span⟩
    else .ok i.toNat
  | _ => .error (invalidType e expected)

/-- The names of the sync modes, as a refusal lists them. -/
def syncModeNames : String := "`every-write` or `os-default`"

/-- Applies one entry of the document to the configuration. -/
def applyEntry (c : ServerConfig) (e : Entry) : Except Refusal ServerConfig :=
  match e.key with
  | "bind_addr" =>
    match e.value with
    | .string s =>
      match SocketAddr.parse? s with
      | some a => .ok { c with bindAddr := a }
      | none => .error ⟨"invalid socket address syntax", some e.span⟩
    | _ => .error (invalidType e "socket address")
  | "data_dir" =>
    match e.value with
    | .string s => .ok { c with dataDir := some s }
    | _ => .error (invalidType e "path string")
  | "sync_mode" =>
    match e.value with
    | .string s =>
      match SyncMode.ofName? s with
      | some m => .ok { c with syncMode := m }
      | none => .error ⟨"unknown variant `" ++ s ++ "`, expected " ++ syncModeNames, some e.span⟩
    | .table [] => .error ⟨"wanted exactly 1 element, found 0 elements", some e.span⟩
    | .table [(k, v, written)] =>
      match SyncMode.ofName? k with
      | some m =>
        -- a mode named by a key carries nothing: an empty table or array
        let place := some (written.value.getD e.span)
        match v with
        | .table [] | .array [] => .ok { c with syncMode := m }
        | .table _ => .error ⟨"expected empty table", place⟩
        | .array _ => .error ⟨"expected empty array", place⟩
        | other => .error ⟨"expected table, found " ++ other.typeName, place⟩
      | none =>
        .error ⟨"unknown variant `" ++ k ++ "`, expected " ++ syncModeNames, some written.key⟩
    | .table _ => .error ⟨"wanted exactly 1 element, more than 1 element", some e.span⟩
    | _ => .error ⟨"wanted string or table", some e.span⟩
  | "max_read_batch" => do return { c with maxReadBatch := ← natural e "usize" }
  | "long_poll_max_ms" => do return { c with longPollMaxMs := ← natural e "u64" }
  | _ => .ok c

/-- Refuses a batch of zero. -/
def validate (c : ServerConfig) : Except ServerError ServerConfig :=
  if c.maxReadBatch = 0 then .error (.config "max_read_batch must be at least 1") else .ok c

/-- Reads a configuration from TOML text. -/
def ofToml (text : String) : Except ServerError ServerConfig :=
  match Toml.parse text with
  | .error f => .error (.config ((f.report text).render text))
  | .ok doc =>
    match doc.entries.foldlM applyEntry {} with
    | .error r => .error (.config (r.render text))
    | .ok c => validate c

/-- Reads a configuration from a file of the disk. -/
def ofFile (d : Disk) (path : String) : Except ServerError ServerConfig :=
  match d.readPath path with
  | .error e => .error (.io e)
  | .ok bs =>
    match String.fromUTF8? (ByteArray.mk bs.toArray) with
    | some text => ofToml text
    | none => .error (.io (.other "stream did not contain valid UTF-8"))

/-- The configuration as TOML text: every key that has a value, one per line. -/
def toToml (c : ServerConfig) : String :=
  "bind_addr = " ++ stringText c.bindAddr.toText ++ "\n" ++
    (match c.dataDir with
      | some d => "data_dir = " ++ stringText d ++ "\n"
      | none => "") ++
    "sync_mode = " ++ stringText c.syncMode.name ++ "\n" ++
    "max_read_batch = " ++ toString c.maxReadBatch ++ "\n" ++
    "long_poll_max_ms = " ++ toString c.longPollMaxMs ++ "\n"

end ServerConfig
end ChangeLog
