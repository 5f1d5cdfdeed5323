import ChangeLog.Journal.Frame
import ChangeLog.Disk.Basic
/-
  Damage to a file on the disk, to exercise recovery: cutting, padding, stray bytes and
  frames at the end, single bytes changed, a field of one frame spoiled, and the file taken
  away or put in place of a directory or the full device. Frames are found by walking the
  length fields from the first byte, as a reader of the file without checksums would.
-/

namespace ChangeLog

/-- The part of a frame that a flip spoils. -/
inductive FramePart where
  /-- The highest byte of the length. -/
  | len
  /-- The lowest bit of the length. -/
  | lenLow
  /-- The first byte of the checksum. -/
  | crc
  | payloadFirst
  | payloadLast
  /-- The whole length, set to zero. -/
  | zeroLen
  deriving DecidableEq, Repr

/-- A change made to a file behind the back of its writer. -/
inductive Damage where
  /-- Removes that many bytes from the end, down to an empty file. -/
  | truncate (bytes : Nat)
  /-- Sets the length, padding with zero bytes. -/
  | truncateTo (len : Nat)
  | appendRaw (bytes : Bytes)
  /-- Appends a frame; the checksum and length are the payload's unless given. -/
  | appendFrame (payload : Bytes) (crc : Option Nat) (len : Option Nat)
  | setByte (pos : Nat) (value : UInt8)
  | xorByte (pos : Nat) (value : UInt8)
  | flip (record : Nat) (part : FramePart)
  | delete
  | replaceWithDir
  | devFull
  deriving DecidableEq, Repr

/-- Why damage could not be done. -/
inductive DamageError where
  | recordPastEnd
  | positionPastEnd
  | io (e : IoError)
  deriving DecidableEq, Repr

/-- The text of a refusal to damage. -/
def DamageError.message : DamageError → String
  | .recordPastEnd => "damage: record index past end of file"
  | .positionPastEnd => "damage: position past end of file"
  | .io e => e.message

namespace Damage

/-- Changes the byte at a position. -/
def changeByte (bs : Bytes) (pos : Nat) (f : UInt8 → UInt8) : Except DamageError Bytes :=
  match bs[pos]? with
  | some b => .ok (bs.set pos (f b))
  | none => .error .positionPastEnd

/-- Spoils a part of the frame that starts at a position. -/
def spoil (bs : Bytes) (pos : Nat) : FramePart → Except DamageError Bytes
  | .len => changeByte bs (pos + 3) (· ^^^ 0xFF)
  | .lenLow => changeByte bs pos (· ^^^ 0x01)
  | .crc => changeByte bs (pos + 4) (· ^^^ 0xFF)
  | .payloadFirst => changeByte bs (pos + Frame.headerSize) (· ^^^ 0xFF)
  | .payloadLast =>
    let len := Le.value ((bs.drop pos).take 4)
    changeByte bs (pos + Frame.headerSize + len - 1) (· ^^^ 0xFF)
  | .zeroLen => .ok (bs.take pos ++ [0, 0, 0, 0] ++ bs.drop (pos + 4))

/-- The bytes of a file after damage to its contents. -/
def edit (bs : Bytes) : Damage → Except DamageError Bytes
  | .truncate n => .ok (bs.take (bs.length - n))
  | .truncateTo n => .ok (if n ≤ bs.length then bs.take n else bs ++ List.replicate (n - bs.length) 0)
  | .appendRaw extra => .ok (bs ++ extra)
  | .appendFrame payload crc len =>
    .ok (bs ++ Le.u32 (len.getD payload.length) ++
      Le.u32 (crc.getD (Crc32.checksum payload).toNat) ++ payload)
  | .setByte pos v => changeByte bs pos fun _ => v
  | .xorByte pos v => changeByte bs pos (· ^^^ v)
  | .flip k part =>
    match Frame.startOf bs k 0 with
    | some pos => spoil bs pos part
    | none => .error .recordPastEnd
  | .delete | .replaceWithDir | .devFull => .ok bs

/-- Damages the file at a path. -/
def apply (d : Disk) (path : String) : Damage → Except DamageError Disk
  | .delete =>
    match d.lookup path with
    | some _ => .ok (d.unbind path)
    | none => .error (.io .notFound)
  | .replaceWithDir => .ok ((d.unbind path).bind path .dir)
  | .devFull => .ok (d.bind path .full)
  | damage =>
    match d.lookup path with
    | some (.file ino) => (damage.edit (d.blob ino)).map (d.setBlob ino)
    | some .dir => .error (.io .isDirectory)
    | some .full => .error (.io .invalidArgument)
    | none => .error (.io .notFound)

end Damage
end ChangeLog
