import ChangeLog.Disk.Basic
/-
  The failures of a store: it was closed, the medium failed, a record could not be
  written, a log holds a bad frame that valid frames follow, or the events of a log do not
  carry the offsets of their places.
-/

namespace ChangeLog

/-- Why a store refused an operation. -/
inductive StoreError where
  | closed
  | io (e : IoError)
  | serialization (text : String)
  | corrupt (path : String) (position : Nat)
  | offsetGap (path : String) (expected found : Nat)
  deriving DecidableEq, Repr

namespace StoreError

/-- The name of the kind of failure. -/
def name : StoreError → String
  | .closed => "Closed"
  | .io _ => "Io"
  | .serialization _ => "Serialization"
  | .corrupt .. => "Corrupt"
  | .offsetGap .. => "OffsetGap"

/-- The text of a failure. -/
def message : StoreError → String
  | .closed => "store is closed"
  | .io e => "I/O error: " ++ e.message
  | .serialization t => "serialization error: " ++ t
  | .corrupt path pos => "corrupt record in " ++ path ++ " at byte " ++ toString pos
  | .offsetGap path e f =>
    "offset gap in " ++ path ++ ": expected offset " ++ toString e ++ ", found " ++ toString f

end StoreError

/-- A computation on the disk that a store runs. -/
abbrev StoreM (α : Type) := OnDisk StoreError α

/-- Runs a computation of the medium inside a store, its failures as store failures. -/
def liftIo {α : Type} (m : OnDisk IoError α) : StoreM α :=
  EStateM.adaptExcept StoreError.io m

end ChangeLog
