import ChangeLog.Script.Answer
import ChangeLog.Json.Record
/-
  Commands on identifiers and single events: checking consumer names, reading event and
  cursor ids, computing ids, stamping events, and reading append requests.
-/

namespace ChangeLog.Script

open Json

/-- A consumer name checked, with its forms of text. -/
def consumerIdAnswer (f : Fields) : Value :=
  withFields (f.str "id") fun s =>
    match ConsumerId.ofText s with
    | .ok c =>
      obj [("id", .str c.raw), ("parsed", .str c.raw), ("as_ref", .str c.raw),
        ("display", .str c.raw), ("debug", .str ("ConsumerId(" ++ c.raw ++ ")")),
        ("json", .str (writeString c.raw))]
    | .error e => idFailure e

/-- A consumer name read from JSON text. The name is checked as soon as its string is read,
so a refused name is reported before anything that follows the string. -/
def consumerIdJsonAnswer (f : Fields) : Value :=
  withFields (f.str "json") fun s =>
    let bytes := s.toUTF8
    match Reader.text bytes 0 with
    | .error e => failure "Deserialize" (e.message bytes)
    | .ok (t, i) =>
      match ConsumerId.ofText t with
      | .error e => failure "Deserialize" e.message
      | .ok c =>
        match Reader.finish bytes i with
        | .ok _ => obj [("id", .str c.raw)]
        | .error e => failure "Deserialize" (e.message bytes)

/-- The bytes of an id as a JSON list of numbers. -/
def byteList (bs : Bytes) : Value := .arr (bs.map fun b => .int b.toNat)

/-- An event id read from its text. -/
def eventIdAnswer (f : Fields) : Value :=
  withFields (do pure (← f.str "hex", ← f.flag "as_bytes")) fun (s, asBytes) =>
    match EventId.ofHex s with
    | .ok e =>
      if asBytes then obj [("bytes", byteList e.bytes), ("from_hash_equal", .bool true)]
      else obj [("hex", .str e.toHex), ("short", .str e.short), ("display", .str e.toHex),
        ("debug", .str ("EventId(" ++ e.short ++ ")"))]
    | .error e => idFailure e

/-- A cursor id read from its text. -/
def cursorIdAnswer (f : Fields) : Value :=
  withFields (f.str "text") fun s =>
    match CursorId.ofText s with
    | .ok c => obj [("display", .str c.toText), ("short", .str c.short),
        ("debug", .str ("CursorId(" ++ c.short ++ ")"))]
    | .error e => idFailure e

/-- The properties of freshly made cursor ids that do not depend on the clock. -/
def cursorIdNewAnswer : Value :=
  let a := CursorId.nth 0 0
  let b := CursorId.nth 0 1
  let roundtrip := match CursorId.ofText a.toText with
    | .ok c => c == a
    | .error _ => false
  obj [("distinct", .bool (a != b)), ("version", .str (toString a.uuid.version)),
    ("variant_ok", .bool a.uuid.variantOk), ("len", .int a.toText.length),
    ("short_is_prefix", .bool (a.toText.startsWith a.short)), ("roundtrip", .bool roundtrip)]

/-- The answer for seconds and nanoseconds that name no instant. -/
def invalidTimestamp (secs : Int) (nanos : Nat) : Value :=
  failure "InvalidTimestamp" (toString secs ++ "s " ++ toString nanos ++ "ns")

/-- Reads an instant from the fields secs and nanos. -/
def Fields.instant (f : Fields) (secs : Option Int := none) (nanos : Option Nat := none) :
    Except String (Except Value Instant) := do
  let s ← f.i64 "secs" secs
  let n ← f.u32 "nanos" (some (nanos.getD 0))
  pure (match Instant.of? s n with
    | some t => .ok t
    | none => .error (invalidTimestamp s n))

/-- The id of an event described by its fields. -/
def computeIdAnswer (f : Fields) : Value :=
  withFields (do
      let ty ← f.str "event_type" (some "")
      let src ← f.str "source" (some "")
      let t ← f.instant
      let off ← f.u64 "offset"
      pure (ty, src, t, off)) fun (ty, src, t, off) =>
    match t with
    | .ok t => obj [("event_id", .str (ChangeEvent.computeId ty src t off).toHex)]
    | .error v => v

/-- An event as its serialised JSON value. -/
def eventJson (e : ChangeEvent) : Value :=
  obj [("offset", .int e.offset), ("event_id", byteList e.id.bytes),
    ("event_type", .str e.eventType), ("before", byteList e.before),
    ("after", byteList e.after), ("source", .str e.source),
    ("timestamp", .str (Rfc3339.format .letter e.timestamp))]

/-- An event stamped from its fields, with its forms. -/
def stampAnswer (f : Fields) : Value :=
  withFields (do
      let ev ← f.newEvent
      let off ← f.u64 "offset"
      let t ← f.instant
      pure (ev, off, t)) fun (ev, off, t) =>
    match t with
    | .error v => v
    | .ok t =>
      let e := ev.stamp off t
      let bin := e.encode
      let base := [("offset", Value.int e.offset), ("event_id", .str e.id.toHex),
        ("short_id", .str e.id.short), ("event_type", .str e.eventType),
        ("source", .str e.source), ("before", .str (Hex.encode e.before)),
        ("after", .str (Hex.encode e.after)),
        ("timestamp", .str (Rfc3339.format .offset e.timestamp)),
        ("is_create", .bool e.isCreate), ("is_delete", .bool e.isDelete),
        ("verify_id", .bool e.verifyId), ("bincode", .str (Hex.encode bin)),
        ("bincode_roundtrip", .bool (ChangeEvent.decode bin == some e)),
        ("json", eventJson e)]
      match f.sub? "tamper" with
      | none => obj base
      | some tf =>
        withFields (do
            let ty ← tf.str "event_type" (some e.eventType)
            let src ← tf.str "source" (some e.source)
            let off ← tf.u64 "offset" (some e.offset)
            let before ← if (tf.get? "before").isSome then tf.hex "before" else pure e.before
            let after ← if (tf.get? "after").isSome then tf.hex "after" else pure e.after
            let t ← tf.instant (some e.timestamp.secs) (some e.timestamp.nanos)
            pure (ty, src, off, before, after, t)) fun (ty, src, off, before, after, t) =>
          match t with
          | .error v => v
          | .ok t =>
            let e' : ChangeEvent := ⟨off, e.id, ty, before, after, src, t⟩
            obj (base ++ [("tampered_verify", .bool e'.verifyId)])

/-- The fields of an append request: the type is required, the rest default to empty. -/
def appendRequestSpecs : List FieldSpec :=
  [⟨"event_type", false⟩, ⟨"before", true⟩, ⟨"after", true⟩, ⟨"source", true⟩]

end ChangeLog.Script
