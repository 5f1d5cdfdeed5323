import ChangeLog.Ident.Consumer
/-
  Progress by consumer: for each consumer that has any, one offset. The entries are kept
  in the order of the consumers' names, byte by byte, so listing them needs no sort.
  Recording keeps the larger of the old and new offset; setting replaces it; forgetting
  removes the consumer.

  Main statements: `get?_insert` and `get?_insert_of_ne` say what setting does to a
  look-up, and `get?_record` that recording keeps the maximum.
-/

namespace ChangeLog

/-- Offsets by consumer, in the order of the consumers' names. -/
structure ProgressMap where
  entries : List (ConsumerId × Nat) := []

namespace ProgressMap

/-- Places an entry by name, replacing the entry of the same consumer. -/
def insertEntry (c : ConsumerId) (o : Nat) : List (ConsumerId × Nat) → List (ConsumerId × Nat)
  | [] => [(c, o)]
  | (d, p) :: rest =>
    if c.raw = d.raw then (c, o) :: rest
    else if c.raw < d.raw then (c, o) :: (d, p) :: rest
    else (d, p) :: insertEntry c o rest

/-- Removes the entry of a consumer. -/
def eraseEntry (c : ConsumerId) : List (ConsumerId × Nat) → List (ConsumerId × Nat)
  | [] => []
  | (d, p) :: rest => if c.raw = d.raw then rest else (d, p) :: eraseEntry c rest

/-- The offset of a consumer. -/
def get? (m : ProgressMap) (c : ConsumerId) : Option Nat :=
  (m.entries.find? fun e => e.1.raw = c.raw).map (·.2)

/-- Sets the offset of a consumer. -/
def insert (m : ProgressMap) (c : ConsumerId) (o : Nat) : ProgressMap :=
  ⟨insertEntry c o m.entries⟩

/-- Forgets a consumer. -/
def erase (m : ProgressMap) (c : ConsumerId) : ProgressMap := ⟨eraseEntry c m.entries⟩

/-- Records an offset, keeping the larger of it and the one held. -/
def record (m : ProgressMap) (c : ConsumerId) (o : Nat) : ProgressMap :=
  m.insert c (match m.get? c with | some cur => max cur o | none => o)

/-- Sets the offset of a consumer, or forgets the consumer. -/
def rewind (m : ProgressMap) (c : ConsumerId) : Option Nat → ProgressMap
  | some o => m.insert c o
  | none => m.erase c

/-- The entries, in the order of the consumers' names. -/
def toList (m : ProgressMap) : List (ConsumerId × Nat) := m.entries

/-- The number of consumers. -/
def size (m : ProgressMap) : Nat := m.entries.length

theorem find?_insertEntry (c : ConsumerId) (o : Nat) (xs : List (ConsumerId × Nat)) (k : String) :
    (insertEntry c o xs).find? (fun e => e.1.raw = k) =
      if c.raw = k then some (c, o) else xs.find? (fun e => e.1.raw = k) := by
  induction xs with
  | nil => by_cases h : c.raw = k <;> simp [insertEntry, h]
  | cons x rest ih =>
    obtain ⟨d, p⟩ := x
    simp only [insertEntry]
    by_cases h1 : c.raw = d.raw
    · rw [if_pos h1]
      by_cases h2 : c.raw = k
      · simp [h2]
      · have h3 : ¬ d.raw = k := fun h => h2 (h1.trans h)
        simp [h2, h3]
    · rw [if_neg h1]
      by_cases h2 : c.raw < d.raw
      · rw [if_pos h2]
        by_cases h3 : c.raw = k <;> simp [h3]
      · rw [if_neg h2]
        by_cases h3 : d.raw = k
        · have h4 : ¬ c.raw = k := fun h => h1 (h.trans h3.symm)
          simp [h3, h4]
        · simp [h3, ih]

@[simp] theorem get?_insert (m : ProgressMap) (c : ConsumerId) (o : Nat) :
    (m.insert c o).get? c = some o := by
  simp [get?, insert, find?_insertEntry]

theorem get?_insert_of_ne (m : ProgressMap) (c d : ConsumerId) (o : Nat) (h : c.raw ≠ d.raw) :
    (m.insert c o).get? d = m.get? d := by
  simp [get?, insert, find?_insertEntry, h]

theorem get?_record (m : ProgressMap) (c : ConsumerId) (o : Nat) :
    (m.record c o).get? c = some ((m.get? c).elim o (max · o)) := by
  cases h : m.get? c <;> simp [record, h]

end ProgressMap
end ChangeLog
