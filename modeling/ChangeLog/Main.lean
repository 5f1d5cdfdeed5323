import ChangeLog.Cli.Commands
import Std.Time.Format
/-
  The tool as a program. The files a command line can touch, the two logs of its data
  directory and a server's configuration, are loaded from the working directory into a disk
  held in memory; the tool runs on that disk; its outputs are printed; and the logs it leaves
  are written back.
-/

namespace ChangeLog.Cli

/-- The files a command line can read, and of those the logs it can write. -/
def touched (words : List String) : List String × List String :=
  match read words with
  | .ok inv =>
    let logs := [Disk.join inv.dataDir eventsFile, Disk.join inv.dataDir progressFile]
    match inv.command with
    | .serve (some cfg) .. => (cfg :: logs, logs)
    | _ => (logs, logs)
  | .error _ => ([], [])

/-- Loads the files that can be read into a fresh disk. -/
def load (paths : List String) : IO Disk :=
  paths.foldlM (fun (d : Disk) (p : String) => do
    try
      let bs ← IO.FS.readBinFile p
      pure (d.place p bs.toList)
    catch _ => pure d) {}

/-- Writes back the logs the disk holds. -/
def store (d : Disk) (paths : List String) : IO Unit :=
  paths.forM fun p =>
    match d.fileAt? p with
    | some bs => do
      if Disk.parent p != "" then IO.FS.createDirAll (Disk.parent p)
      IO.FS.writeBinFile p (ByteArray.mk bs.toArray)
    | none => pure ()

/-- The time now, to the nanosecond. -/
def clock : IO Instant := do
  let t ← Std.Time.Timestamp.now
  let ns := t.toNanosecondsSinceUnixEpoch.val
  pure ((Instant.of? (ns / 1000000000) (ns % 1000000000).toNat).getD Instant.epoch)

end ChangeLog.Cli

open ChangeLog ChangeLog.Cli in
/-- Runs the tool on the command line and exits with its code. -/
def main (args : List String) : IO UInt32 := do
  let (reads, writes) := touched args
  let d ← load reads
  let now ← clock
  let ctx : Cli.Context := ⟨now, CursorId.nth (now.secs.toNat * 1000 + now.nanos / 1000000) 0⟩
  let (o, d') := runTool ctx args d
  IO.print o.stdout
  IO.eprint o.stderr
  store d' writes
  pure o.code.toUInt32
