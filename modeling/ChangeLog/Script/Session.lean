import ChangeLog.Script.Steps
import ChangeLog.Stream.Basic
/-
  What a session hands out and how it shows it. Times come from a clock that moves one
  second per append, and cursor ids from a fixed sequence; a cursor is shown by its handle,
  c0, c1 and so on in the order the cursors were opened, and every message names known
  cursors by their handles. An event is shown without its time and id: instead it says
  whether its id is the hash of its fields and, when the session appended it, the id that
  append gave. A corrupt frame of the events journal is named by its index among the
  frames, since its byte position depends on the lengths of times.
-/

namespace ChangeLog.Script

open Json

/-- What a session has handed out so far. -/
structure Issued where
  cursors : Nat := 0
  ticks : Nat := 0
  /-- The id each appended offset was given, latest first. -/
  appended : List (Nat × EventId) := []

namespace Issued

/-- The time of the first cursor id, in milliseconds. -/
def cursorEpoch : Nat := 1700000000000

/-- The id of the n-th cursor opened. -/
def cursor (n : Nat) : CursorId := CursorId.nth cursorEpoch n

/-- The handle of the n-th cursor opened. -/
def handle (n : Nat) : String := "c" ++ toString n

/-- The id the next cursor gets. -/
def nextCursor (i : Issued) : CursorId := cursor i.cursors

/-- Counts a cursor as opened. -/
def opened (i : Issued) : Issued := { i with cursors := i.cursors + 1 }

/-- The time of the next append. -/
def now (i : Issued) : Instant := (Instant.of? (1700000000 + i.ticks) 0).getD Instant.epoch

/-- Notes an appended event and moves the clock. -/
def stamped (i : Issued) (e : ChangeEvent) : Issued :=
  { i with ticks := i.ticks + 1, appended := (e.offset, e.id) :: i.appended }

/-- Reads a cursor: a handle of an opened cursor, or the text of an id. -/
def cursorOf (i : Issued) (text : String) : Except IdError CursorId :=
  match (List.range i.cursors).find? (fun n => handle n = text) with
  | some n => .ok (cursor n)
  | none => CursorId.ofText text

/-- Shows a cursor by its handle when it is known. -/
def showCursor (i : Issued) (id : CursorId) : String :=
  match (List.range i.cursors).find? (fun n => cursor n = id) with
  | some n => handle n
  | none => id.toText

/-- A message with known cursor ids replaced by their handles. -/
def mask (i : Issued) (msg : String) : String :=
  (List.range i.cursors).foldl (fun m n => m.replace (cursor n).toText (handle n)) msg

/-- Whether an event's id is right: the hash of its fields, and the id its append gave. -/
def idOk (i : Issued) (e : ChangeEvent) : Bool :=
  e.verifyId && match i.appended.lookup e.offset with
    | some id => id == e.id
    | none => true

/-- An event as shown. -/
def eventView (i : Issued) (e : ChangeEvent) : Value :=
  obj [("offset", .nat e.offset), ("event_type", .str e.eventType), ("source", .str e.source),
    ("before", .str (Hex.encode e.before)), ("after", .str (Hex.encode e.after)),
    ("is_create", .bool e.isCreate), ("is_delete", .bool e.isDelete), ("id_ok", .bool (i.idOk e))]

/-- Events as shown. -/
def eventsView (i : Issued) (es : List ChangeEvent) : Value := .arr (es.map i.eventView)

end Issued

/-- The index of a corrupt frame of the events journal, with its message. -/
def corruptRecord? (d : Disk) : StoreError → Option (String × Nat)
  | .corrupt path pos =>
    if path.endsWith ("/" ++ eventsFile) || path = eventsFile then
      match d.readPath path with
      | .ok bs =>
        let k := Frame.indexOf bs pos
        some ("corrupt record in " ++ path ++ " at record " ++ toString k, k)
      | .error _ => none
    else none
  | _ => none

/-- The answer of a store failure, naming a corrupt event frame by its index. -/
def storeFailureOn (d : Disk) (e : StoreError) : Value :=
  match corruptRecord? d e with
  | some (msg, k) => obj [("error", .str e.name), ("message", .str msg), ("record", .nat k)]
  | none => storeFailure e

/-- The answer of a stream failure. -/
def streamFailure (i : Issued) (d : Disk) (e : StreamError) : Value :=
  let base : List (String × Value) :=
    [("error", .str e.name), ("kind", .str e.kind.name), ("retryable", .bool e.retryable)]
  match e with
  | .store se =>
    match corruptRecord? d se with
    | some (msg, k) => obj (base ++ [("message", .str ("store error: " ++ msg)), ("record", .nat k),
        ("store_error", .str se.name)])
    | none => obj (base ++ [("message", .str (i.mask e.message)), ("store_error", .str se.name)])
  | _ => obj (base ++ [("message", .str (i.mask e.message))])

/-- The answer of an identifier failure, with known cursors by their handles. -/
def Issued.idFailure (i : Issued) (e : IdError) : Value := failure e.name (i.mask e.message)

/-- A progress list as shown. -/
def progressView (ps : List (ConsumerId × Nat)) : Value :=
  .arr (ps.map fun (c, o) => .arr [.str c.raw, .nat o])

end ChangeLog.Script
