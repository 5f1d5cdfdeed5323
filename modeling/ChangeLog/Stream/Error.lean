import ChangeLog.Store.Error
import ChangeLog.Ident.Error
import ChangeLog.Ident.Cursor
/-
  The failures of a change stream, each of one kind. A store that is closed makes the
  stream closed; every other store failure is internal. Only a closed stream is worth
  trying again.
-/

namespace ChangeLog

/-- The kinds of stream failure. -/
inductive ErrorKind where
  | outOfRange
  | notFound
  | invalidRange
  | closed
  | invalidArgument
  | internal
  deriving DecidableEq, Repr

/-- The name of a kind. -/
def ErrorKind.name : ErrorKind → String
  | .outOfRange => "out_of_range"
  | .notFound => "not_found"
  | .invalidRange => "invalid_range"
  | .closed => "closed"
  | .invalidArgument => "invalid_argument"
  | .internal => "internal"

/-- Why a stream refused an operation. -/
inductive StreamError where
  | outOfRange (offset nextOffset : Nat)
  | cursorNotFound (id : CursorId)
  | eventNotFound (offset : Nat)
  | invalidRange (lo hi : Nat)
  | closed
  | invalidEventType (text : String)
  | invalidConsumer (e : IdError)
  | store (e : StoreError)

namespace StreamError

/-- A store failure seen by the stream: a closed store is a closed stream. -/
def ofStore : StoreError → StreamError
  | .closed => .closed
  | e => .store e

/-- The kind of a failure. -/
def kind : StreamError → ErrorKind
  | .outOfRange .. => .outOfRange
  | .cursorNotFound _ | .eventNotFound _ => .notFound
  | .invalidRange .. => .invalidRange
  | .closed => .closed
  | .invalidEventType _ | .invalidConsumer _ => .invalidArgument
  | .store _ => .internal

/-- Whether trying again may succeed: only when the stream was closed. -/
def retryable : StreamError → Bool
  | .closed => true
  | _ => false

/-- The name of the failure. -/
def name : StreamError → String
  | .outOfRange .. => "OutOfRange"
  | .cursorNotFound _ => "CursorNotFound"
  | .eventNotFound _ => "EventNotFound"
  | .invalidRange .. => "InvalidRange"
  | .closed => "Closed"
  | .invalidEventType _ => "InvalidEventType"
  | .invalidConsumer _ => "InvalidConsumer"
  | .store _ => "Store"

/-- The text of a failure. -/
def message : StreamError → String
  | .outOfRange o n =>
    "offset " ++ toString o ++ " is out of range (next offset is " ++ toString n ++ ")"
  | .cursorNotFound id => "cursor " ++ id.toText ++ " not found"
  | .eventNotFound o => "no event at offset " ++ toString o
  | .invalidRange lo hi => "invalid range: from=" ++ toString lo ++ ", to=" ++ toString hi
  | .closed => "change stream is closed"
  | .invalidEventType t => "invalid event type: " ++ t
  | .invalidConsumer e => e.message
  | .store e => "store error: " ++ e.message

theorem ofStore_closed : ofStore .closed = .closed := rfl

theorem retryable_iff (e : StreamError) : e.retryable = true ↔ e.kind = .closed := by
  cases e <;> simp [retryable, kind]

end StreamError
end ChangeLog
