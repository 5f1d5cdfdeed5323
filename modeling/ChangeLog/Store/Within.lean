import ChangeLog.Store.Error
/-
  Computations on a component that lives beside the disk: a store, a tracker, a stream.
  The state is the component and the disk together; a failure keeps both as they were
  when it happened, so a write that reached the disk before an error stays there.
-/

namespace ChangeLog

/-- A computation on a component and the disk, that may fail. -/
abbrev Within (σ ε α : Type) := EStateM ε (σ × Disk) α

namespace Within

/-- Runs a computation of the disk alone. -/
def disk {σ ε α : Type} (m : OnDisk ε α) : Within σ ε α := fun (s, d) =>
  match m d with
  | .ok a d' => .ok a (s, d')
  | .error e d' => .error e (s, d')

/-- The component as it is. -/
def current {σ ε : Type} : Within σ ε σ := fun (s, d) => .ok s (s, d)

/-- Replaces the component. -/
def replace {σ ε : Type} (s : σ) : Within σ ε Unit := fun (_, d) => .ok () (s, d)

/-- Runs a computation on a part of a larger component. -/
def focus {σ τ ε α : Type} (view : τ → σ) (update : τ → σ → τ) (m : Within σ ε α) :
    Within τ ε α := fun (t, d) =>
  match m (view t, d) with
  | .ok a (s, d') => .ok a (update t s, d')
  | .error e (s, d') => .error e (update t s, d')

/-- Renames the failures of a computation. -/
def mapError {σ ε ε' α : Type} (f : ε → ε') (m : Within σ ε α) : Within σ ε' α :=
  EStateM.adaptExcept f m

/-- Runs a computation from a component and a disk. -/
def run' {σ ε α : Type} (m : Within σ ε α) (s : σ) (d : Disk) : Except ε α × σ × Disk :=
  match m (s, d) with
  | .ok a (s', d') => (.ok a, s', d')
  | .error e (s', d') => (.error e, s', d')

theorem disk_pure {σ ε α : Type} (a : α) (s : σ) (d : Disk) :
    (disk (pure a : OnDisk ε α) : Within σ ε α) (s, d) = .ok a (s, d) := rfl

end Within
end ChangeLog
