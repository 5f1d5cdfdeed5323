import Mathlib
import ChangeLog.Proofs.Stream.Restart
/-
  The contract of an event store, in memory or over a journal.

  The invariant is that every event sits at the place its offset names (`EventLog.Placed`);
  the next offset is the number of events. A new store holds it; an opened store holds it,
  and the opening fails with an offset gap at the first event out of place when the journal
  reads back events that do not (`offsetGap?_eq_none_iff`, `offsetGap?_eq_some`). Every call
  keeps it (`placed_perform`).

  What one call answers is said once, as `StoreCall.Meets`: an append stamps the next offset
  and adds exactly that event, or fails and leaves the store as it was; a look-up finds an
  event exactly below the next offset, the one at that offset; a range gives the events of
  its offsets in order, cut at the next offset; a closed store refuses all three and keeps
  its events. `meets_of_placed` proves it of every call on a store that holds the invariant,
  and `runSteps_placed` and `events_runSteps` carry the invariant and the events appended
  along a whole run. Main statement: `event_store_contract`.
-/

namespace ChangeLog

/-! ## Runs of calls -/

/-- Runs calls one after another, giving each call's answer or failure and the state left at
the end. -/
def runSteps {σ ε α β : Type} (perform : β → EStateM ε σ α) : List β → σ → List (Except ε α) × σ
  | [], x => ([], x)
  | b :: rest, x =>
    let next := runSteps perform rest (stateOf (perform b x))
    (outcome (perform b x) :: next.1, next.2)

section Runs

variable {σ ε α β : Type} (perform : β → EStateM ε σ α)

/-- What every call keeps holds of the state a run ends in. -/
theorem runSteps_inv {P : σ → Prop} (hstep : ∀ b x, P x → P (stateOf (perform b x))) :
    ∀ (bs : List β) (x : σ), P x → P (runSteps perform bs x).2 := by
  intro bs
  induction bs with
  | nil => intro x hx; exact hx
  | cons b rest ih => intro x hx; exact ih _ (hstep b x hx)

/-- What every call of a kind keeps holds at the end of a run of calls of that kind. -/
theorem runSteps_inv_of {Q : β → Prop} {P : σ → Prop}
    (hstep : ∀ b x, Q b → P x → P (stateOf (perform b x))) :
    ∀ (bs : List β) (x : σ), (∀ b ∈ bs, Q b) → P x → P (runSteps perform bs x).2 := by
  intro bs
  induction bs with
  | nil => intro x _ hx; exact hx
  | cons b rest ih =>
    intro x hq hx
    exact ih _ (fun b' hb' => hq b' (List.mem_cons_of_mem b hb'))
      (hstep b x (hq b List.mem_cons_self) hx)

/-- A run that adds to a list at each call what a function reads off the call's outcome ends
with the list and everything the outcomes added, in order. -/
theorem runSteps_accumulates {γ : Type} (view : σ → List γ) (added : Except ε α → List γ)
    (hstep : ∀ b x, view (stateOf (perform b x)) = view x ++ added (outcome (perform b x))) :
    ∀ (bs : List β) (x : σ),
      view (runSteps perform bs x).2 = view x ++ (runSteps perform bs x).1.flatMap added := by
  intro bs
  induction bs with
  | nil => intro x; simp [runSteps]
  | cons b rest ih =>
    intro x
    simp only [runSteps, List.flatMap_cons, ih, hstep, List.append_assoc]

end Runs

theorem outcome_bind_pure {σ ε α β : Type} (m : EStateM ε σ α) (f : α → β) (x : σ) :
    outcome ((m >>= fun a => pure (f a)) x) = (outcome (m x)).map f := by
  simp only [bind, EStateM.bind, pure, EStateM.pure]
  cases m x <;> rfl

/-! ## Events at their places -/

namespace EventLog

/-- Each event carries its place in the log as its offset. -/
def Placed (l : EventLog) : Prop := ∀ i (ev : ChangeEvent), l.events[i]? = some ev → ev.offset = i

theorem Placed.publish {l : EventLog} (h : l.Placed) (e : NewEvent) (now : Instant) :
    (l.publish (e.stamp l.nextOffset now)).Placed :=
  placed_append h (by simp [NewEvent.stamp, nextOffset])

/-- The events a range gives: from its first offset, as many as lie below both its end and
the next offset. -/
theorem range_eq (l : EventLog) (lo hi : Nat) :
    l.range lo hi = (l.events.drop lo).take (min hi l.nextOffset - lo) := by
  unfold range
  dsimp only
  split
  · rename_i h
    rw [Nat.sub_eq_zero_of_le h, List.take_zero]
  · rfl

theorem getElem?_range (l : EventLog) (lo hi k : Nat) :
    (l.range lo hi)[k]? = if k < min hi l.nextOffset - lo then l.events[lo + k]? else none := by
  rw [range_eq, List.getElem?_take, List.getElem?_drop]

/-- The events at places from one offset on carry the offsets that follow it. -/
theorem Placed.map_offset {l : EventLog} (h : l.Placed) {lo m : Nat} (hm : lo + m ≤ l.nextOffset) :
    ((l.events.drop lo).take m).map (·.offset) = List.range' lo m := by
  simp only [nextOffset] at hm
  have hlen : (((l.events.drop lo).take m).map (·.offset)).length = (List.range' lo m).length := by
    simp only [List.length_map, List.length_take, List.length_drop, List.length_range']
    omega
  refine List.ext_getElem hlen ?_
  intro k h₁ h₂
  -- the place lo + k is in the log, and its event carries it
  have hlt : lo + k < l.events.length := by simp at h₁; omega
  rw [List.getElem_map, List.getElem_take, List.getElem_drop, List.getElem_range',
    h _ _ (List.getElem?_eq_getElem hlt)]
  omega

theorem Placed.map_offset_range {l : EventLog} (h : l.Placed) (lo hi : Nat) :
    (l.range lo hi).map (·.offset) = List.range' lo (min hi l.nextOffset - lo) := by
  rw [range_eq]
  by_cases hle : lo ≤ min hi l.nextOffset
  · exact h.map_offset (by omega)
  · rw [Nat.sub_eq_zero_of_le (by omega), List.take_zero]
    rfl

end EventLog

/-- Places from a start are kept when the events carry them, and the first event that does
not is where a gap is found, with its offset. -/
theorem offsetGap?_eq_none_iff (evs : List ChangeEvent) :
    ∀ k, offsetGap? k evs = none ↔ ∀ i (ev : ChangeEvent), evs[i]? = some ev → ev.offset = k + i := by
  induction evs with
  | nil => intro k; simp [offsetGap?]
  | cons ev rest ih =>
    intro k
    simp only [offsetGap?]
    split
    · rename_i hev
      rw [ih (k + 1)]
      constructor
      · intro h i x hx
        cases i with
        | zero => simp only [List.getElem?_cons_zero, Option.some.injEq] at hx; rw [← hx, hev]; rfl
        | succ i => have := h i x (by simpa using hx); omega
      · intro h i x hx
        have := h (i + 1) x (by simpa using hx)
        omega
    · rename_i hev
      simp only [reduceCtorEq, false_iff, not_forall]
      exact ⟨0, ev, rfl, by simpa using hev⟩

theorem offsetGap?_eq_some (evs : List ChangeEvent) :
    ∀ k i found, offsetGap? k evs = some (i, found) →
      k ≤ i ∧ found ≠ i ∧ (evs[i - k]?).map (·.offset) = some found ∧
        ∀ j < i - k, (evs[j]?).map (·.offset) = some (k + j) := by
  induction evs with
  | nil => intro k i found h; simp [offsetGap?] at h
  | cons ev rest ih =>
    intro k i found h
    simp only [offsetGap?] at h
    split at h
    · rename_i hev
      obtain ⟨hki, hne, hat, hbefore⟩ := ih (k + 1) i found h
      refine ⟨by omega, hne, ?_, ?_⟩
      · rw [show i - k = (i - (k + 1)) + 1 by omega]
        simpa using hat
      · intro j hj
        cases j with
        | zero => simp [hev]
        | succ j =>
          have := hbefore j (by omega)
          simp only [List.getElem?_cons_succ]
          rw [this]
          congr 1
          omega
    · rename_i hev
      simp only [Option.some.injEq, Prod.mk.injEq] at h
      obtain ⟨rfl, rfl⟩ := h
      exact ⟨le_refl _, hev, by simp, fun j hj => by omega⟩

/-! ## Calls on an event store -/

/-- A call on an event store. -/
inductive StoreCall where
  | append (e : NewEvent) (now : Instant)
  | get (offset : Nat)
  | readRange (lo hi : Nat)
  | close

/-- What a call on an event store answers. -/
inductive StoreAnswer where
  | appended (e : ChangeEvent)
  | found (e : Option ChangeEvent)
  | events (es : List ChangeEvent)
  | done

/-- The event an answer says was appended. -/
def StoreAnswer.added : Except StoreError StoreAnswer → List ChangeEvent
  | .ok (.appended ev) => [ev]
  | _ => []

namespace StoreCall

/-- Answers a query of the store, which changes nothing. -/
def query {α : Type} (f : EventStore → Except StoreError α) (k : α → StoreAnswer) :
    Within EventStore StoreError StoreAnswer := fun x =>
  match f x.1 with
  | .ok a => .ok (k a) x
  | .error e => .error e x

/-- Runs a call on the store. -/
def perform : StoreCall → Within EventStore StoreError StoreAnswer
  | append e now => return .appended (← EventStore.append e now)
  | get o => query (·.get? o) .found
  | readRange lo hi => query (·.readRange lo hi) .events
  | close => do EventStore.close; return .done

/-- What a call promises, from the store it starts on, of its answer and of the store it
leaves. -/
def Meets (s : EventStore) : StoreCall → Except StoreError StoreAnswer → EventStore → Prop
  | append e now, r, s' =>
    (s.isClosed = true → r = .error .closed) ∧
    (s.isClosed = false → s.journal = none → r = .ok (.appended (e.stamp s.nextOffset now))) ∧
    ((∃ ev, r = .ok (.appended ev) ∧ ev = e.stamp s.nextOffset now ∧ ev.offset = s.nextOffset ∧
        s'.log.events = s.log.events ++ [ev] ∧ s'.nextOffset = s.nextOffset + 1 ∧
        s'.isClosed = false) ∨
      (∃ err, r = .error err ∧ s' = s))
  | get o, r, s' =>
    s' = s ∧ (s.isClosed = true → r = .error .closed) ∧
    (s.isClosed = false → ∃ found, r = .ok (.found found) ∧ found = s.log.events[o]? ∧
      (found.isSome ↔ o < s.nextOffset) ∧ ∀ ev, found = some ev → ev.offset = o)
  | readRange lo hi, r, s' =>
    s' = s ∧ (s.isClosed = true → r = .error .closed) ∧
    (s.isClosed = false → ∃ es, r = .ok (.events es) ∧
      es.map (·.offset) = List.range' lo (min hi s.nextOffset - lo) ∧
      ∀ k (ev : ChangeEvent), es[k]? = some ev → s.log.events[lo + k]? = some ev)
  | close, r, s' =>
    s'.isClosed = true ∧ s'.log.events = s.log.events ∧
    (r = .ok .done ∨ (∃ err, r = .error err) ∧ s.journal.isSome)

variable (s : EventStore) (d : Disk)

theorem perform_query {α : Type} (f : EventStore → Except StoreError α) (k : α → StoreAnswer) :
    query f k (s, d) = match f s with
      | .ok a => .ok (k a) (s, d)
      | .error e => .error e (s, d) := rfl

theorem stateOf_query {α : Type} (f : EventStore → Except StoreError α) (k : α → StoreAnswer) :
    stateOf (query f k (s, d)) = (s, d) := by
  rw [perform_query]
  split <;> rfl

theorem outcome_query {α : Type} (f : EventStore → Except StoreError α) (k : α → StoreAnswer) :
    outcome (query f k (s, d)) = (f s).map k := by
  rw [perform_query]
  split <;> rename_i h <;> rw [h] <;> rfl

/-- An append on a store: refused when it is closed, taken at once in memory, and over a
journal taken once its record is written. -/
theorem append_cases (e : NewEvent) (now : Instant) :
    (s.isClosed = true ∧ EventStore.append e now (s, d) = .error .closed (s, d)) ∨
    (s.isClosed = false ∧ s.journal = none ∧ EventStore.append e now (s, d) =
      .ok (e.stamp s.nextOffset now) ({ s with log := s.log.publish (e.stamp s.nextOffset now) }, d)) ∨
    (∃ j j' p d', s.isClosed = false ∧ s.journal = some j ∧
      EventStore.append e now (s, d) = .ok (e.stamp s.nextOffset now)
        ({ s with journal := some j', log := s.log.publish (e.stamp s.nextOffset now) }, d') ∧
      j.append (e.stamp s.nextOffset now).encode d = .ok (j', p) d') ∨
    (∃ err d', s.isClosed = false ∧ EventStore.append e now (s, d) = .error err (s, d')) := by
  rw [EventStore.append_run]
  cases hc : s.log.closed
  · have hc' : s.isClosed = false := hc
    simp only [Bool.false_eq_true, if_false]
    cases hj : s.journal with
    | none => exact .inr (.inl ⟨hc', rfl, rfl⟩)
    | some j =>
      simp only
      rcases ha : j.append (e.stamp s.nextOffset now).encode d with ⟨⟨j', p⟩, d'⟩ | ⟨err, d'⟩
      · exact .inr (.inr (.inl ⟨j, j', p, d', hc', rfl, rfl, ha⟩))
      · exact .inr (.inr (.inr ⟨err, d', hc', rfl⟩))
  · exact .inl ⟨hc, by simp⟩

/-- Closing marks the store closed and keeps its events; only forcing a journal out can
fail. -/
theorem close_cases :
    ∃ st d', stateOf (EventStore.close (s, d)) = (st, d') ∧ st.isClosed = true ∧
      st.log.events = s.log.events ∧
      (EventStore.close (s, d) = .ok () (st, d') ∨
        (∃ err, EventStore.close (s, d) = .error err (st, d')) ∧ s.journal.isSome) := by
  rw [EventStore.close_run]
  cases hc : s.log.closed
  · simp only [Bool.false_eq_true, if_false]
    cases hj : s.journal with
    | none => exact ⟨_, d, rfl, rfl, rfl, .inl rfl⟩
    | some j =>
      simp only
      rcases j.sync d with ⟨⟨⟩, d'⟩ | ⟨err, d'⟩
      · exact ⟨_, d', rfl, rfl, rfl, .inl rfl⟩
      · exact ⟨_, d', rfl, rfl, rfl, .inr ⟨⟨err, rfl⟩, rfl⟩⟩
  · exact ⟨s, d, rfl, hc, rfl, .inl (by simp)⟩

theorem outcome_append (e : NewEvent) (now : Instant) :
    outcome ((append e now).perform (s, d)) =
      (outcome (EventStore.append e now (s, d))).map .appended :=
  outcome_bind_pure _ _ _

theorem stateOf_append (e : NewEvent) (now : Instant) :
    stateOf ((append e now).perform (s, d)) = stateOf (EventStore.append e now (s, d)) :=
  Call.stateOf_bind_pure _ _ _

theorem perform_close :
    close.perform (s, d) = match EventStore.close (s, d) with
      | .ok () x => .ok .done x
      | .error e x => .error e x := by
  simp only [perform, bind, EStateM.bind, pure, EStateM.pure]
  rcases EventStore.close (s, d) with ⟨⟨⟩, x⟩ | ⟨e, x⟩ <;> rfl

/-- Every call on a store whose events sit at their places does what it promises. -/
theorem meets_of_placed {s : EventStore} (h : s.log.Placed) (call : StoreCall) (d : Disk) :
    call.Meets s (outcome (call.perform (s, d))) (stateOf (call.perform (s, d))).1 := by
  cases call with
  | append e now =>
    rw [outcome_append, stateOf_append]
    have hstamp : (e.stamp s.nextOffset now).offset = s.nextOffset := rfl
    have hgrow : ∀ st : EventStore, st.log = s.log.publish (e.stamp s.nextOffset now) →
        st.log.events = s.log.events ++ [e.stamp s.nextOffset now] ∧
          st.nextOffset = s.nextOffset + 1 := fun st hst => by
      simp [EventStore.nextOffset, hst, EventLog.publish, EventLog.nextOffset]
    rcases append_cases s d e now with ⟨hc, ha⟩ | ⟨hc, hj, ha⟩ | ⟨j, j', p, d', hc, hj, ha, -⟩ |
        ⟨err, d', hc, ha⟩ <;> rw [ha] <;> dsimp only [Meets]
    · -- a closed store refuses and is left as it was
      exact ⟨fun _ => rfl, fun h' => absurd hc (by rw [h']; decide),
        .inr ⟨_, rfl, rfl⟩⟩
    · obtain ⟨h1, h2⟩ := hgrow { s with log := s.log.publish (e.stamp s.nextOffset now) } rfl
      exact ⟨fun h' => absurd hc (by rw [h']; decide), fun _ _ => rfl,
        .inl ⟨_, rfl, rfl, hstamp, h1, h2, hc⟩⟩
    · obtain ⟨h1, h2⟩ :=
        hgrow { s with journal := some j', log := s.log.publish (e.stamp s.nextOffset now) } rfl
      refine ⟨fun h' => absurd hc (by rw [h']; decide),
        fun _ hn => absurd (hj.symm.trans hn) (Option.some_ne_none j), .inl ⟨_, rfl, rfl, hstamp, h1, h2, hc⟩⟩
    · -- the record could not be written: the store is as it was
      refine ⟨fun h' => absurd hc (by rw [h']; decide), fun _ hn => ?_, .inr ⟨err, rfl, rfl⟩⟩
      -- a store in memory has no record to write, so its append cannot fail
      have := EventStore.append_run s d e now
      rw [ha, if_neg (by rw [show s.log.closed = s.isClosed from rfl, hc]; decide), hn] at this
      cases this
  | get o =>
    refine ⟨by rw [perform, stateOf_query], ?_, ?_⟩
    · intro hc
      rw [perform, outcome_query, show s.get? o = .error .closed from if_pos hc]
      rfl
    · intro hc
      have hc' : s.log.closed = false := hc
      rw [perform, outcome_query, show s.get? o = .ok (s.log.get? o) from if_neg (by simp [hc'])]
      refine ⟨_, rfl, rfl, ?_, fun ev hev => h o ev hev⟩
      simp [EventLog.get?, EventStore.nextOffset, EventLog.nextOffset]
  | readRange lo hi =>
    refine ⟨by rw [perform, stateOf_query], ?_, ?_⟩
    · intro hc
      rw [perform, outcome_query, show s.readRange lo hi = .error .closed from if_pos hc]
      rfl
    · intro hc
      have hc' : s.log.closed = false := hc
      rw [perform, outcome_query,
        show s.readRange lo hi = .ok (s.log.range lo hi) from if_neg (by simp [hc'])]
      refine ⟨_, rfl, h.map_offset_range lo hi, fun k ev hk => ?_⟩
      rw [EventLog.getElem?_range] at hk
      split at hk
      · exact hk
      · cases hk
  | close =>
    obtain ⟨st, d', hst, hc, hev, hr⟩ := close_cases s d
    rw [perform_close]
    rcases hr with hr | ⟨⟨err, hr⟩, hj⟩ <;> rw [hr] <;> rw [hr] at hst <;> cases hst
    · exact ⟨hc, hev, .inl rfl⟩
    · exact ⟨hc, hev, .inr ⟨⟨err, rfl⟩, hj⟩⟩

/-- A call adds to the log exactly the event its answer says it appended. -/
theorem events_perform {s : EventStore} (call : StoreCall) (d : Disk) :
    (stateOf (call.perform (s, d))).1.log.events =
      s.log.events ++ StoreAnswer.added (outcome (call.perform (s, d))) := by
  cases call with
  | append e now =>
    rw [outcome_append, stateOf_append]
    rcases append_cases s d e now with ⟨-, ha⟩ | ⟨-, -, ha⟩ | ⟨j, j', p, d', -, -, ha, -⟩ |
        ⟨err, d', -, ha⟩ <;> rw [ha] <;>
      simp [StoreAnswer.added, EventLog.publish, outcome, Except.map]
  | get o =>
    rw [perform, stateOf_query, outcome_query]
    cases s.get? o <;> simp [StoreAnswer.added, Except.map]
  | readRange lo hi =>
    rw [perform, stateOf_query, outcome_query]
    cases s.readRange lo hi <;> simp [StoreAnswer.added, Except.map]
  | close =>
    obtain ⟨st, d', hst, -, hev, hr⟩ := close_cases s d
    rw [perform_close]
    rcases hr with hr | ⟨⟨err, hr⟩, -⟩ <;> rw [hr] <;> rw [hr] at hst <;> cases hst <;>
      simp [StoreAnswer.added, hev, outcome]

/-- A call appends at most one event, stamped with the next offset. -/
theorem added_perform (s : EventStore) (call : StoreCall) (d : Disk) :
    StoreAnswer.added (outcome (call.perform (s, d))) = [] ∨
      ∃ (e : NewEvent) (now : Instant),
        StoreAnswer.added (outcome (call.perform (s, d))) = [e.stamp s.nextOffset now] := by
  cases call with
  | append e now =>
    rw [outcome_append]
    rcases append_cases s d e now with ⟨-, ha⟩ | ⟨-, -, ha⟩ | ⟨j, j', p, d', -, -, ha, -⟩ |
        ⟨err, d', -, ha⟩ <;> rw [ha]
    · exact .inl rfl
    · exact .inr ⟨e, now, rfl⟩
    · exact .inr ⟨e, now, rfl⟩
    · exact .inl rfl
  | get o =>
    rw [perform, outcome_query]
    cases s.get? o <;> exact .inl rfl
  | readRange lo hi =>
    rw [perform, outcome_query]
    cases s.readRange lo hi <;> exact .inl rfl
  | close =>
    rw [perform_close]
    rcases EventStore.close (s, d) with ⟨⟨⟩, x⟩ | ⟨err, x⟩ <;> exact .inl rfl

/-- Every call keeps the events at their places. -/
theorem placed_perform {s : EventStore} (h : s.log.Placed) (call : StoreCall) (d : Disk) :
    (stateOf (call.perform (s, d))).1.log.Placed := by
  have hev := events_perform (s := s) call d
  rcases added_perform s call d with hnil | ⟨e, now, hone⟩
  · rw [hnil, List.append_nil] at hev
    intro i ev hi
    rw [hev] at hi
    exact h i ev hi
  · -- the one event appended carries the next offset, the place it takes
    rw [hone] at hev
    intro i ev hi
    rw [hev] at hi
    exact placed_append h rfl i ev hi

end StoreCall

/-- A run keeps the events at their places. -/
theorem runSteps_placed (calls : List StoreCall) (x : EventStore × Disk) (h : x.1.log.Placed) :
    (runSteps StoreCall.perform calls x).2.1.log.Placed :=
  runSteps_inv StoreCall.perform (P := fun x => x.1.log.Placed)
    (fun call x hx => StoreCall.placed_perform hx call x.2) calls x h

/-- A run's log is the log it started with and the events its appends answered, in order. -/
theorem events_runSteps (calls : List StoreCall) (x : EventStore × Disk) :
    (runSteps StoreCall.perform calls x).2.1.log.events =
      x.1.log.events ++ (runSteps StoreCall.perform calls x).1.flatMap StoreAnswer.added :=
  runSteps_accumulates StoreCall.perform (fun x => x.1.log.events) StoreAnswer.added
    (fun call x => StoreCall.events_perform call x.2) calls x

/-- A store opened over a data directory holds its events at their places. -/
theorem EventStore.placed_openDir {dir : String} {mode : SyncMode} {d d' : Disk} {s : EventStore}
    (h : EventStore.openDir dir mode d = .ok s d') : s.log.Placed := by
  rw [EventStore.openDir_run] at h
  split at h
  · split at h
    · split at h
      · cases h
      · rename_i hgap
        cases h
        intro i ev hi
        have := (offsetGap?_eq_none_iff _ 0).1 hgap i ev hi
        omega
    · cases h
  · cases h

/-- The contract of an event store. Over a new store in memory or a store opened over a data
directory, and along any run of appends, look-ups, ranges and closings, on any disk: every
event sits at the place its offset names, every call does what `StoreCall.Meets` promises,
and the log is the log the run started with followed by the events its appends answered,
so each of them is found at its offset. An opening whose journal reads back events out of
place fails with an offset gap at the first of them. -/
theorem event_store_contract (s : EventStore) (d : Disk) (calls : List StoreCall)
    (hstart : s = {} ∨ ∃ dir mode d₀, EventStore.openDir dir mode d₀ = .ok s d) :
    let run := runSteps StoreCall.perform calls (s, d)
    (∀ i, i ≤ calls.length → (runSteps StoreCall.perform (calls.take i) (s, d)).2.1.log.Placed) ∧
    (∀ i (hi : i < calls.length),
      let x := (runSteps StoreCall.perform (calls.take i) (s, d)).2
      calls[i].Meets x.1 (outcome (calls[i].perform x)) (stateOf (calls[i].perform x)).1) ∧
    run.2.1.log.events = s.log.events ++ run.1.flatMap StoreAnswer.added ∧
    (∀ ev ∈ run.1.flatMap StoreAnswer.added, run.2.1.log.events[ev.offset]? = some ev) ∧
    ∀ dir mode d₀ j d₁ j' ps d₂ (i : Nat) (ev : ChangeEvent),
      Journal.openPath (Disk.join dir eventsFile) mode d₀ = .ok j d₁ →
      j.recover d₁ = .ok (j', ps) d₂ →
      (ps.filterMap ChangeEvent.decode)[i]? = some ev → ev.offset ≠ i →
      ∃ i' found, EventStore.openDir dir mode d₀ =
          .error (.offsetGap (Disk.join dir eventsFile) i' found) d₂ ∧ i' ≤ i ∧ found ≠ i' ∧
        ((ps.filterMap ChangeEvent.decode)[i']?).map (·.offset) = some found := by
  intro run
  have h₀ : s.log.Placed := by
    rcases hstart with rfl | ⟨dir, mode, d₀, hopen⟩
    · intro i ev hi
      simp at hi
    · exact EventStore.placed_openDir hopen
  have hplacedAt : ∀ i, (runSteps StoreCall.perform (calls.take i) (s, d)).2.1.log.Placed :=
    fun i => runSteps_placed _ (s, d) h₀
  have hevents := events_runSteps calls (s, d)
  refine ⟨fun i _ => hplacedAt i, fun i _ => StoreCall.meets_of_placed (hplacedAt i) _ _, hevents, ?_, ?_⟩
  · -- an appended event lies in the final log, and there it sits at its offset
    intro ev hev
    have hmem : ev ∈ run.2.1.log.events := by
      rw [hevents]
      exact List.mem_append_right _ hev
    obtain ⟨k, hk⟩ := List.mem_iff_getElem?.1 hmem
    rw [runSteps_placed calls (s, d) h₀ k ev hk]
    exact hk
  · intro dir mode d₀ j d₁ j' ps d₂ i ev hopen hrec hi hne
    rw [EventStore.openDir_run, hopen]
    simp only
    rw [hrec]
    simp only
    cases hgap : offsetGap? 0 (ps.filterMap ChangeEvent.decode) with
    | none =>
      have := (offsetGap?_eq_none_iff _ 0).1 hgap i ev hi
      omega
    | some r =>
      obtain ⟨i', found⟩ := r
      obtain ⟨-, hfne, hat, hbefore⟩ := offsetGap?_eq_some _ 0 i' found hgap
      simp only [Nat.sub_zero, Nat.zero_add] at hat hbefore
      refine ⟨i', found, rfl, ?_, hfne, hat⟩
      -- every place before the gap is kept, so the misplaced event is not before it
      by_contra hlt
      have := hbefore i (by omega)
      rw [hi] at this
      simp only [Option.map_some, Option.some.injEq] at this
      exact hne this

/-- A new store in memory takes an event, finds it, gives it in a range, closes, and then
refuses an append. -/
theorem event_store_contract_in_memory :
    let calls := [StoreCall.append ⟨"row.insert", [], [1], "orders"⟩ Instant.epoch, .get 0,
      .readRange 0 5, .close, .append ⟨"row.delete", [1], [], "orders"⟩ Instant.epoch]
    let s : EventStore := {}
    let d : Disk := {}
    (s = {} ∨ ∃ dir mode d₀, EventStore.openDir dir mode d₀ = .ok s d) ∧
    let run := runSteps StoreCall.perform calls (s, d)
    (∀ i, i ≤ calls.length → (runSteps StoreCall.perform (calls.take i) (s, d)).2.1.log.Placed) ∧
    (∀ i (hi : i < calls.length),
      let x := (runSteps StoreCall.perform (calls.take i) (s, d)).2
      calls[i].Meets x.1 (outcome (calls[i].perform x)) (stateOf (calls[i].perform x)).1) ∧
    run.2.1.log.events = s.log.events ++ run.1.flatMap StoreAnswer.added ∧
    (∀ ev ∈ run.1.flatMap StoreAnswer.added, run.2.1.log.events[ev.offset]? = some ev) ∧
    ∀ dir mode d₀ j d₁ j' ps d₂ (i : Nat) (ev : ChangeEvent),
      Journal.openPath (Disk.join dir eventsFile) mode d₀ = .ok j d₁ →
      j.recover d₁ = .ok (j', ps) d₂ →
      (ps.filterMap ChangeEvent.decode)[i]? = some ev → ev.offset ≠ i →
      ∃ i' found, EventStore.openDir dir mode d₀ =
          .error (.offsetGap (Disk.join dir eventsFile) i' found) d₂ ∧ i' ≤ i ∧ found ≠ i' ∧
        ((ps.filterMap ChangeEvent.decode)[i']?).map (·.offset) = some found := by
  intro calls s d
  exact ⟨.inl rfl, event_store_contract s d calls (.inl rfl)⟩

end ChangeLog
