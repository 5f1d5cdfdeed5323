import ChangeLog.Journal.Frame
import ChangeLog.Store.Error
/-
  A journal: a file of frames that only grows at its end, with a writer that counts the
  bytes it has written. The writer keeps its file open, so it goes on writing to that file
  if the name is taken away or given to another file, and its count is its own: it is set
  when the journal is opened and when recovery cuts the file, and moves only by its own
  appends.

  Appending refuses a payload whose length does not fit the frame's 32-bit length field, and
  otherwise writes one frame at the end of the file, forcing its data out when the mode asks.
  When the write or the flush fails, the file is cut back to where the frame began (a
  failure to cut is passed over) and the failure is reported.
  Recovery reads the file by its name and scans its frames; a torn tail is cut away
  through the writer.
-/

namespace ChangeLog

/-- When the journal forces its writes to the medium. -/
inductive SyncMode where
  /-- After every append. -/
  | everyWrite
  /-- When the system decides. -/
  | osDefault
  deriving DecidableEq, Repr

/-- The name of a sync mode in configuration. -/
def SyncMode.name : SyncMode → String
  | .everyWrite => "every-write"
  | .osDefault => "os-default"

/-- A sync mode by its name in configuration. -/
def SyncMode.ofName? : String → Option SyncMode
  | "every-write" => some .everyWrite
  | "os-default" => some .osDefault
  | _ => none

/-- An open journal. -/
structure Journal where
  path : String
  handle : Handle
  /-- The writer's count of the bytes in the file. -/
  offset : Nat
  mode : SyncMode

namespace Journal

/-- Opens the journal at a path, making its directory and an empty file when missing. -/
def openPath (path : String) (mode : SyncMode) : StoreM Journal := do
  liftIo (Disk.createDirAll (Disk.parent path))
  let h ← liftIo (Disk.openAppend path)
  let d ← get
  pure ⟨path, h, d.handleLength h, mode⟩

/-- Writes a frame and forces its data out when the mode asks. -/
def writeFrame (j : Journal) (frame : Bytes) : OnDisk IoError Unit := do
  Disk.write j.handle frame
  if j.mode = .everyWrite then Disk.syncData j.handle

/-- Appends a payload; gives the journal and the byte position the frame was counted at. -/
def append (j : Journal) (payload : Bytes) : StoreM (Journal × Nat) := do
  if 4294967296 ≤ payload.length then throw (.serialization "record larger than 4 GiB")
  let position := j.offset
  let frame := Frame.encode payload
  tryCatch (liftIo (j.writeFrame frame)) fun e => do
    tryCatch (liftIo (Disk.setLen j.handle position)) fun _ => pure ()
    throw e
  pure ({ j with offset := j.offset + frame.length }, position)

/-- Reads the file by name and gives the payloads of its valid frames, cutting away a
torn tail. -/
def recover (j : Journal) : StoreM (Journal × List Bytes) := do
  let d ← get
  let data ← match d.readPath j.path with
    | .ok bs => pure bs
    | .error e => throw (.io e)
  match Frame.scan data with
  | .error pos => throw (.corrupt j.path pos)
  | .ok (payloads, stop) =>
    if stop < data.length then
      liftIo (Disk.setLen j.handle stop)
      liftIo (Disk.sync j.handle)
      pure ({ j with offset := stop }, payloads)
    else pure (j, payloads)

/-- Forces the file to the medium. -/
def sync (j : Journal) : StoreM Unit := liftIo (Disk.sync j.handle)

end Journal
end ChangeLog
