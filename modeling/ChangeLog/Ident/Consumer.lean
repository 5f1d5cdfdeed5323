import ChangeLog.Unicode.WhiteSpace
/-
  Consumer names. A consumer is named by a non-empty text of at most 256 UTF-8 bytes with no
  white space, no control character and no slash. The checks run in that order and the
  first that fails is the reason given. Names compare by their bytes.
-/

namespace ChangeLog

/-- Why a text is not a consumer name. -/
inductive ConsumerId.Problem where
  | empty
  | tooLong
  | blankOrControl
  | slash
  deriving DecidableEq, Repr

/-- The reason, as a message states it. -/
def ConsumerId.Problem.text : ConsumerId.Problem → String
  | .empty => "must not be empty"
  | .tooLong => "longer than 256 bytes"
  | .blankOrControl => "contains whitespace or control characters"
  | .slash => "must not contain '/'"

/-- The first check that a text fails, if any. -/
def ConsumerId.problem? (s : String) : Option ConsumerId.Problem :=
  if s.isEmpty then some .empty
  else if s.utf8ByteSize > 256 then some .tooLong
  else if s.toList.any (fun c => Unicode.isWhiteSpace c || Unicode.isControl c) then
    some .blankOrControl
  else if s.toList.contains '/' then some .slash
  else none

/-- A consumer name, checked. -/
structure ConsumerId where
  raw : String
  valid : ConsumerId.problem? raw = none

namespace ConsumerId

instance : DecidableEq ConsumerId := fun a b =>
  if h : a.raw = b.raw then isTrue (by cases a; cases b; cases h; rfl)
  else isFalse (fun e => h (e ▸ rfl))

/-- Names are ordered by their text, which is the order of their bytes. -/
instance : Ord ConsumerId := ⟨fun a b => compare a.raw b.raw⟩

/-- Checks a text as a consumer name. -/
def parse (s : String) : Except Problem ConsumerId :=
  match h : problem? s with
  | none => .ok ⟨s, h⟩
  | some p => .error p

theorem parse_raw {s : String} {c : ConsumerId} (h : parse s = .ok c) : c.raw = s := by
  unfold parse at h
  split at h
  · cases h; rfl
  · cases h

theorem parse_ok_iff (s : String) : (∃ c, parse s = .ok c) ↔ problem? s = none := by
  unfold parse
  constructor
  · rintro ⟨c, hc⟩
    split at hc
    · assumption
    · cases hc
  · intro h
    split
    · exact ⟨_, rfl⟩
    · rename_i p hp; rw [h] at hp; cases hp

end ConsumerId
end ChangeLog
