import ChangeLog.Progress.Map
import ChangeLog.Encoding.Binary
/-
  The records of a progress journal. An acknowledgment says that a consumer has seen an
  offset and is folded in with the maximum; a rewind sets a consumer's offset exactly, or
  forgets the consumer. In the journal a record is its variant's number in four bytes,
  the consumer's name as a length-prefixed text, then the offset: eight bytes for an
  acknowledgment, an optional number for a rewind. A record whose name is not a valid
  consumer name does not read.
-/

namespace ChangeLog

/-- A change of one consumer's progress. -/
inductive ProgressRecord where
  | ack (consumer : ConsumerId) (offset : Nat)
  | rewind (consumer : ConsumerId) (offset : Option Nat)

namespace ProgressRecord

/-- The bytes of a record. -/
def encode : ProgressRecord → Bytes
  | .ack c o => Le.u32 0 ++ Binary.text c.raw ++ Le.u64 o
  | .rewind c o => Le.u32 1 ++ Binary.text c.raw ++ Binary.optU64 o

/-- Reads a consumer name, which must be valid. -/
def readConsumer : Binary.Reader ConsumerId := do
  let s ← Binary.readText
  match ConsumerId.parse s with
  | .ok c => pure c
  | .error _ => failure

/-- Reads a record from the front of a payload. -/
def reader : Binary.Reader ProgressRecord := do
  let tag ← Binary.readU32
  if tag = 0 then
    let c ← readConsumer
    let o ← Binary.readU64
    pure (.ack c o)
  else if tag = 1 then
    let c ← readConsumer
    let o ← Binary.readOptU64
    pure (.rewind c o)
  else failure

/-- A record from a payload; bytes after it are allowed. -/
def decode (bs : Bytes) : Option ProgressRecord := Binary.decode reader bs

/-- Applies a record to progress. -/
def apply (m : ProgressMap) : ProgressRecord → ProgressMap
  | .ack c o => m.record c o
  | .rewind c o => m.rewind c o

end ProgressRecord
end ChangeLog
