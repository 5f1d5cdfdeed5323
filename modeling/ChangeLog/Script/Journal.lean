import ChangeLog.Script.Steps
import ChangeLog.Encoding.Binary
/-
  Sessions over one journal of numbered texts. A numbered text is written as its number in
  eight bytes and its text with a length; the session opens the journal at a path in the
  scratch directory and runs appends, recovery and damage against it.
-/

namespace ChangeLog.Script

open Json

/-- A record of the test journal: a number and a text. -/
structure Numbered where
  seq : Nat
  body : String

namespace Numbered

/-- The bytes of a numbered text. -/
def encode (r : Numbered) : Bytes := Le.u64 r.seq ++ Binary.text r.body

/-- Reads a numbered text from the front of a payload. -/
def reader : Binary.Reader Numbered := do
  let seq ← Binary.readU64
  let body ← Binary.readText
  pure ⟨seq, body⟩

/-- A numbered text from a payload; bytes after it are allowed. -/
def decode? (bs : Bytes) : Option Numbered := (reader.run bs).map (·.1)

end Numbered

/-- A session over one journal. -/
structure JournalSession where
  disk : Disk
  path : String
  mode : SyncMode
  journal : Option Journal

/-- The answer when the journal is not open. -/
def noJournal : Value := failure "NoWal" "wal is not open"

/-- Runs one step of a journal session. -/
def journalStep (s : JournalSession) (f : Fields) : JournalSession × Value :=
  match f.str "do", f.flag "disk_full" with
  | .error m, _ | _, .error m => (s, badInput m)
  | .ok step, .ok limited =>
    let withJournal (k : Journal → JournalSession × Value) : JournalSession × Value :=
      match s.journal with
      | some j => k j
      | none => (s, noJournal)
    match step with
    | "append" =>
      match (do pure (← f.u64 "seq", ← f.str "body") : Except String (Nat × String)) with
      | .error m => (s, badInput m)
      | .ok (seq, body) => withJournal fun j =>
        match onDisk s.disk limited (j.append (Numbered.encode ⟨seq, body⟩)) with
        | (.ok (j', pos), d) => ({ s with disk := d, journal := some j' }, obj [("position", .nat pos)])
        | (.error e, d) => ({ s with disk := d }, storeFailure e)
    | "recover" => withJournal fun j =>
      if s.disk.lookup j.path = some .full then (s, badInput "recover would read /dev/full forever")
      else
        match onDisk s.disk limited j.recover with
        | (.ok (j', payloads), d) =>
          let records := (payloads.filterMap Numbered.decode?).map fun r =>
            Value.arr [.nat r.seq, .str r.body]
          ({ s with disk := d, journal := some j' }, obj [("records", .arr records)])
        | (.error e, d) => ({ s with disk := d }, storeFailure e)
    | "offset" => withJournal fun j => (s, obj [("offset", .nat j.offset)])
    | "sync" => withJournal fun j =>
      match onDisk s.disk limited j.sync with
      | (.ok (), d) => ({ s with disk := d }, okay)
      | (.error e, d) => ({ s with disk := d }, storeFailure e)
    | "path" => withJournal fun j => (s, obj [("path", .str j.path)])
    | "reopen" =>
      match onDisk s.disk limited (Journal.openPath s.path s.mode) with
      | (.ok j, d) => ({ s with disk := d, journal := some j }, okay)
      | (.error e, d) => ({ s with disk := d, journal := none }, storeFailure e)
    | "crash" => ({ s with journal := none }, okay)
    | "damage" =>
      match f.damage with
      | .error m => (s, badInput m)
      | .ok damage =>
        let (d, a) := damageDisk s.disk s.path damage
        ({ s with disk := d }, a)
    | "file_len" => (s, fileLength s.disk s.path)
    | "file_hex" =>
      if s.disk.lookup s.path = some .full then (s, badInput "file_hex would read /dev/full forever")
      else match s.disk.readPath s.path with
        | .ok bs => (s, obj [("hex", .str (Hex.encode bs))])
        | .error e => (s, storeFailure (.io e))
    | other => (s, badInput ("unknown step " ++ other))

/-- The answer of a journal command. -/
def journalAnswer (f : Fields) : Value :=
  match f.str "path" (some "test.wal"), f.syncMode, f.list "steps" with
  | .error m, _, _ | _, .error m, _ | _, _, .error m => badInput m
  | .ok rel, .ok mode, .ok steps =>
    let path := Disk.join scratch rel
    match onDisk Disk.fresh false (Journal.openPath path mode) with
    | (.error e, _) => openFailure (storeFailure e)
    | (.ok j, d) => stepsAnswer (runSteps journalStep ⟨d, path, mode, some j⟩ steps)

end ChangeLog.Script
