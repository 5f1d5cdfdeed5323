import ChangeLog.Ident.EventId
import ChangeLog.Hash.Blake3
import ChangeLog.Time.Rfc3339
import ChangeLog.Encoding.Binary
/-
  Change events. An event to be appended names its type and source and carries the bytes
  before and after the change. Once stored it also has its offset in the log, the time it
  was stamped, and an id: the BLAKE3 hash of a tagged preimage of type, source, time and
  offset, each variable field preceded by its length, so the payloads do not enter the id.
-/

namespace ChangeLog

/-- An event to be appended. -/
structure NewEvent where
  eventType : String
  before : Bytes := []
  after : Bytes := []
  source : String := ""
  deriving DecidableEq, Repr

/-- A stored event. -/
structure ChangeEvent where
  offset : Nat
  id : EventId
  eventType : String
  before : Bytes
  after : Bytes
  source : String
  timestamp : Instant
  deriving DecidableEq

namespace ChangeEvent

/-- The tag in front of every preimage. -/
def tag : Bytes := "clog-event-v1:".toUTF8.toList

/-- The bytes hashed into an event's id. -/
def preimage (eventType source : String) (t : Instant) (offset : Nat) : Bytes :=
  tag ++ Binary.text eventType ++ Binary.text source ++ Le.i64 t.secs ++ Le.u32 t.nanos ++
    Le.u64 offset

/-- The id of an event with this type, source, time and offset. -/
def computeId (eventType source : String) (t : Instant) (offset : Nat) : EventId :=
  ⟨Blake3.hash (preimage eventType source t offset), Blake3.hash_length _⟩

/-- Whether the id matches the other fields. -/
def verifyId (e : ChangeEvent) : Bool :=
  e.id == computeId e.eventType e.source e.timestamp e.offset

/-- An event creates when it has only an after image. -/
def isCreate (e : ChangeEvent) : Bool := e.before.isEmpty && !e.after.isEmpty

/-- An event deletes when it has only a before image. -/
def isDelete (e : ChangeEvent) : Bool := !e.before.isEmpty && e.after.isEmpty

/-- The event as written in a log record: offset, id, type, before, after, source, time. -/
def encode (e : ChangeEvent) : Bytes :=
  Le.u64 e.offset ++ e.id.bytes ++ Binary.text e.eventType ++ Binary.bytes e.before ++
    Binary.bytes e.after ++ Binary.text e.source ++
    Binary.text (Rfc3339.format .letter e.timestamp)

/-- Reads an event from the front of a log record. -/
def reader : Binary.Reader ChangeEvent := do
  let offset ← Binary.readU64
  let idBytes ← Binary.take 32
  let id ← match EventId.ofBytes idBytes with
    | .ok i => pure i
    | .error _ => failure
  let eventType ← Binary.readText
  let before ← Binary.readBytes
  let after ← Binary.readBytes
  let source ← Binary.readText
  let stamp ← Binary.readText
  match Rfc3339.parse stamp with
  | some t => pure ⟨offset, id, eventType, before, after, source, t⟩
  | none => failure

/-- Reads an event from a log record. -/
def decode (bs : Bytes) : Option ChangeEvent := Binary.decode reader bs

end ChangeEvent

/-- Stamps an event with its offset and time, and gives it its id. -/
def NewEvent.stamp (e : NewEvent) (offset : Nat) (t : Instant) : ChangeEvent :=
  ⟨offset, ChangeEvent.computeId e.eventType e.source t offset, e.eventType, e.before, e.after,
    e.source, t⟩

theorem NewEvent.verifyId_stamp (e : NewEvent) (offset : Nat) (t : Instant) :
    (e.stamp offset t).verifyId = true := by
  simp [NewEvent.stamp, ChangeEvent.verifyId]

end ChangeLog
