import ChangeLog.Proofs.Stream.Calls
/-
  Acknowledged progress never points past the log. A stream is reachable when it is a
  stream in memory, a stream opened over any event store and any progress store, or what a
  reachable stream is left as by any call, made on any disk. In every reachable stream each
  consumer's progress is an offset the log holds: opening rewinds progress at or past the
  next offset, an acknowledgment at or past it is refused, and no call takes events out of
  the log. So a consumer resumes at most at the next offset, a subscription there is never
  out of range, and one past a progress never passes the next offset.

  Main statement: `progress_below_next`.
-/

namespace ChangeLog

namespace ProgressMap

/-- Every offset held is below a bound. -/
def Below (m : ProgressMap) (n : Nat) : Prop := ∀ e ∈ m.entries, e.2 < n

theorem mem_insertEntry {c : ConsumerId} {o : Nat} {xs : List (ConsumerId × Nat)}
    {e : ConsumerId × Nat} (h : e ∈ insertEntry c o xs) : e = (c, o) ∨ e ∈ xs := by
  induction xs with
  | nil => simpa [insertEntry] using h
  | cons x rest ih =>
    obtain ⟨d, p⟩ := x
    simp only [insertEntry] at h
    split at h
    · rcases List.mem_cons.1 h with h | h
      · exact Or.inl h
      · exact Or.inr (List.mem_cons_of_mem _ h)
    · split at h
      · rcases List.mem_cons.1 h with h | h
        · exact Or.inl h
        · exact Or.inr h
      · rcases List.mem_cons.1 h with h | h
        · exact Or.inr (h ▸ List.mem_cons_self)
        · rcases ih h with h | h
          · exact Or.inl h
          · exact Or.inr (List.mem_cons_of_mem _ h)

theorem Below.insert {m : ProgressMap} {n : Nat} (hm : m.Below n) (c : ConsumerId) {o : Nat}
    (ho : o < n) : (m.insert c o).Below n := by
  intro e he
  rcases mem_insertEntry he with rfl | he
  · exact ho
  · exact hm e he

theorem Below.mono {m : ProgressMap} {n n' : Nat} (hm : m.Below n) (h : n ≤ n') : m.Below n' :=
  fun e he => Nat.lt_of_lt_of_le (hm e he) h

theorem Below.get? {m : ProgressMap} {n : Nat} (hm : m.Below n) {c : ConsumerId} {p : Nat}
    (h : m.get? c = some p) : p < n := by
  obtain ⟨e, hfind, rfl⟩ := Option.map_eq_some_iff.1 h
  exact hm e (List.mem_of_find?_eq_some hfind)

end ProgressMap

namespace AckTracker

/-- Recovery keeps every offset it reads below the next one: one at or past it is rewound to
the last offset of the log, or forgotten. -/
theorem recoverEntries_below (n : Nat) (xs : List (ConsumerId × Nat)) :
    ∀ (acc : ProgressMap) (x : ProgressStore × Disk) (m : ProgressMap) (x' : ProgressStore × Disk),
      acc.Below n → recoverEntries n xs acc x = .ok m x' → m.Below n := by
  induction xs with
  | nil =>
    intro acc x m x' hacc h
    cases h
    exact hacc
  | cons e rest ih =>
    obtain ⟨c, o⟩ := e
    intro acc x m x' hacc h
    simp only [recoverEntries] at h
    split at h
    · rename_i ho
      exact ih _ x m x' (hacc.insert c ho) h
    · simp only [bind, EStateM.bind] at h
      split at h
      · rename_i x'' _
        refine ih _ x'' m x' ?_ h
        -- the rewound offset is the last one of the log, when it has one
        by_cases hn : n = 0
        · simpa [hn] using hacc
        · simpa [hn] using hacc.insert c (show n - 1 < n by omega)
      · cases h

theorem recover_below {n : Nat} {x : ProgressStore × Disk} {m : ProgressMap}
    {x' : ProgressStore × Disk} (h : recover n x = .ok m x') : m.Below n := by
  simp only [recover, bind, EStateM.bind] at h
  exact recoverEntries_below n _ {} _ m x' (fun e he => by cases he) h

end AckTracker

namespace ChangeStream

/-- Every consumer's progress is an offset the log holds. -/
def ProgressBelow (s : ChangeStream) : Prop := s.acks.acked.Below s.nextOffset

theorem progressBelow_inMemory (config : StreamConfig) : (inMemory config).ProgressBelow :=
  fun e he => by cases he

theorem progressBelow_openWith {events : EventStore} {progress : ProgressStore}
    {config : StreamConfig} {d d' : Disk} {s : ChangeStream}
    (h : openWith events progress config d = .ok s d') : s.ProgressBelow := by
  unfold openWith Within.run' at h
  split at h
  · rename_i acked progress' d'' hrun
    split at hrun
    · rename_i hrec
      cases hrun
      cases h
      exact AckTracker.recover_below hrec
    · cases hrun
  · cases h

/-- Opening a data directory opens a stream over the stores read from it. -/
theorem openDir_eq_openWith {dir : String} {mode : SyncMode} {config : StreamConfig}
    {d d' : Disk} {s : ChangeStream} (h : openDir dir mode config d = .ok s d') :
    ∃ events progress d₀, openWith events progress config d₀ = .ok s d' := by
  simp only [openDir, bind, EStateM.bind, EStateM.adaptExcept] at h
  rcases he : EventStore.openDir dir mode d with ⟨events, d₁⟩ | ⟨e, d₁⟩ <;>
    simp only [he, reduceCtorEq] at h
  rcases hp : ProgressStore.openDir dir mode d₁ with ⟨progress, d₀⟩ | ⟨e, d₀⟩ <;>
    simp only [hp, reduceCtorEq] at h
  exact ⟨events, progress, d₀, h⟩

end ChangeStream

/-- The streams a program can hold: one in memory, one opened over stores, and what any call
leaves of one, on any disk. -/
inductive Reachable : ChangeStream → Prop where
  | inMemory (config : StreamConfig) : Reachable (ChangeStream.inMemory config)
  | opened {events : EventStore} {progress : ProgressStore} {config : StreamConfig}
      {d d' : Disk} {s : ChangeStream} :
      ChangeStream.openWith events progress config d = .ok s d' → Reachable s
  | call {s : ChangeStream} (c : Call) (d : Disk) : Reachable s → Reachable (c.after s d)

theorem Reachable.openedDir {dir : String} {mode : SyncMode} {config : StreamConfig}
    {d d' : Disk} {s : ChangeStream} (h : ChangeStream.openDir dir mode config d = .ok s d') :
    Reachable s := by
  obtain ⟨events, progress, d₀, h⟩ := ChangeStream.openDir_eq_openWith h
  exact .opened h

/-- A call keeps progress below the next offset: it moves progress only to an offset the log
holds, and the log only grows. -/
theorem ChangeStream.ProgressBelow.after {s : ChangeStream} (hs : s.ProgressBelow) (c : Call)
    (d : Disk) : (c.after s d).ProgressBelow := by
  have hgrow := Call.nextOffset_le_after s d c
  unfold ChangeStream.ProgressBelow
  rcases Call.acked_after s d c with hacked | ⟨consumer, o, ho, hacked⟩
  · rw [hacked]
    exact hs.mono hgrow
  · rw [hacked]
    exact (hs.insert consumer ho).mono hgrow

theorem Reachable.progressBelow {s : ChangeStream} (h : Reachable s) : s.ProgressBelow := by
  induction h with
  | inMemory config => exact ChangeStream.progressBelow_inMemory config
  | opened h => exact ChangeStream.progressBelow_openWith h
  | call c d _ ih => exact ih.after c d

/-- In every reachable stream a consumer's progress is an offset the log holds, so where it
resumes is at most the next offset, a subscription there opens, and one past a listed
progress never passes the next offset. -/
theorem progress_below_next (s : ChangeStream) (h : Reachable s) :
    (∀ c p, s.acks.progress c = some p → p < s.nextOffset) ∧
    (∀ c, s.acks.resumeOffset c ≤ s.nextOffset) ∧
    (∀ c p, (c, p) ∈ s.acks.all → p + 1 ≤ s.nextOffset) ∧
    (∀ (id : CursorId) (c : ConsumerId) (owner : Option String) (d : Disk),
      ChangeStream.subscribe id (s.acks.resumeOffset c) owner (s, d) =
        if s.isClosed then .error .closed (s, d)
        else .ok ()
          ({ s with cursors := s.cursors.put id ⟨owner, s.acks.resumeOffset c, s.acks.resumeOffset c⟩ },
            d)) := by
  have hb := h.progressBelow
  have hprogress : ∀ c p, s.acks.progress c = some p → p < s.nextOffset :=
    fun c p hp => hb.get? hp
  have hresume : ∀ c, s.acks.resumeOffset c ≤ s.nextOffset := by
    intro c
    unfold AckTracker.resumeOffset
    cases hp : s.acks.progress c with
    | none => exact Nat.zero_le _
    | some p => exact hprogress c p hp
  refine ⟨hprogress, hresume, ?_, ?_⟩
  · intro c p hmem
    exact hb (c, p) hmem
  · intro id c owner d
    rw [ChangeStream.subscribe_run, if_neg (Nat.not_lt.2 (hresume c))]

/-- A stream in memory that takes an append and an acknowledgment of its event. -/
theorem progress_below_next_after_ack :
    let c : ConsumerId := ⟨"billing", by decide⟩
    let s := (Call.acknowledge c 0).after
      ((Call.append ⟨"created", [], [1], "db"⟩ Instant.epoch).after (ChangeStream.inMemory {}) {}) {}
    Reachable s ∧
      (∀ c p, s.acks.progress c = some p → p < s.nextOffset) ∧
      (∀ c, s.acks.resumeOffset c ≤ s.nextOffset) ∧
      (∀ c p, (c, p) ∈ s.acks.all → p + 1 ≤ s.nextOffset) ∧
      (∀ (id : CursorId) (c : ConsumerId) (owner : Option String) (d : Disk),
        ChangeStream.subscribe id (s.acks.resumeOffset c) owner (s, d) =
          if s.isClosed then .error .closed (s, d)
          else .ok ()
            ({ s with cursors := s.cursors.put id ⟨owner, s.acks.resumeOffset c, s.acks.resumeOffset c⟩ },
              d)) := by
  intro c s
  have h : Reachable s := .call _ _ (.call _ _ (.inMemory {}))
  exact ⟨h, progress_below_next s h⟩

end ChangeLog
