import ChangeLog.Script.Answer
import ChangeLog.Disk.Damage
import ChangeLog.Journal.Basic
/-
  Commands made of steps. A session holds its state from step to step; each step is
  answered on its own, and a failed step leaves the session to run the next one. The scratch
  directory of a session is the directory named $DIR on its disk; a step marked disk_full
  runs with the disk limited, so writes that grow a file fail.
-/

namespace ChangeLog.Script

open Json

/-- The name of the scratch directory in paths and messages. -/
def scratch : String := "$DIR"

/-- A disk holding the empty scratch directory. -/
def Disk.fresh : Disk := ({} : Disk).bind scratch .dir

/-- The answers to steps, in order, threading the session. -/
def runSteps {σ : Type} (step : σ → Fields → σ × Value) : σ → List Value → List Value
  | _, [] => []
  | s, v :: rest =>
    let (s', a) := step s ⟨v⟩
    a :: runSteps step s' rest

/-- The answer of a command of steps whose session opened. -/
def stepsAnswer (answers : List Value) : Value :=
  obj [("open", okay), ("steps", .arr answers)]

/-- The answer of a command whose session did not open. -/
def openFailure (e : Value) : Value := obj [("open", e)]

/-- The answer of a store failure. -/
def storeFailure (e : StoreError) : Value := failure e.name e.message

/-- Runs a computation on a disk, limited for the step when asked. -/
def onDisk {ε α : Type} (d : Disk) (limited : Bool) (m : OnDisk ε α) : Except ε α × Disk :=
  match m.run { d with limited := limited } with
  | .ok a d' => (.ok a, { d' with limited := false })
  | .error e d' => (.error e, { d' with limited := false })

/-- The sync mode a command names, the system's by default. -/
def Fields.syncMode (f : Fields) : Except String SyncMode := do
  let name ← f.str "sync_mode" (some "os-default")
  match SyncMode.ofName? name with
  | some m => pure m
  | none => throw ("unknown sync_mode " ++ name)

/-- The part of a frame a command names. -/
def FramePart.ofName? : String → Option FramePart
  | "len" => some .len
  | "len_low" => some .lenLow
  | "crc" => some .crc
  | "payload_first" => some .payloadFirst
  | "payload_last" => some .payloadLast
  | "zero_len" => some .zeroLen
  | _ => none

/-- An optional field holding a 32-bit number. -/
def Fields.optU32 (f : Fields) (key : String) : Except String (Option Nat) :=
  match f.get? key with
  | none | some .null => .ok none
  | _ => some <$> f.u32 key

/-- The damage a step describes. -/
def Fields.damage (f : Fields) : Except String Damage := do
  let action ← f.str "action"
  match action with
  | "truncate" => return .truncate (← f.u64 "bytes")
  | "truncate_to" => return .truncateTo (← f.u64 "len")
  | "append_raw" => return .appendRaw (← f.hex "hex")
  | "append_frame" => return .appendFrame (← f.hex "payload") (← f.optU32 "crc") (← f.optU32 "len")
  | "set_byte" => return .setByte (← f.u64 "pos") (← f.u64 "value").toUInt8
  | "xor_byte" => return .xorByte (← f.u64 "pos") (← f.u64 "value").toUInt8
  | "flip" =>
    let k ← f.u64 "record"
    let name ← f.str "part"
    match FramePart.ofName? name with
    | some p => return .flip k p
    | none => throw ("unknown flip part " ++ name)
  | "delete" => return .delete
  | "replace_with_dir" => return .replaceWithDir
  | "dev_full" => return .devFull
  | other => throw ("unknown damage action " ++ other)

/-- Damages a file of a session's disk, or answers why not. -/
def damageDisk (d : Disk) (path : String) (damage : Damage) : Disk × Value :=
  match Damage.apply d path damage with
  | .ok d' => (d', okay)
  | .error .recordPastEnd => (d, badInput DamageError.recordPastEnd.message)
  | .error .positionPastEnd => (d, badInput DamageError.positionPastEnd.message)
  | .error (.io e) => (d, storeFailure (.io e))

/-- The length of a file of a session's disk. -/
def fileLength (d : Disk) (path : String) : Value :=
  match d.lengthOf path with
  | .ok n => obj [("len", .nat n)]
  | .error e => storeFailure (.io e)

end ChangeLog.Script
