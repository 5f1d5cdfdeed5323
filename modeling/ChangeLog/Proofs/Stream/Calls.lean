import Mathlib
import ChangeLog.Stream.Basic
/-
  Calls on a change stream: what each operation of the stream does to its state, said once
  here so that what whole runs keep is proved from these lemmas and not by opening the
  operations again.

  Each operation gets an equation for its run from a stream and a disk (`readBatch_run`,
  `subscribe_run`, ...). A call is any one of them; it finds the disk as the environment
  left it, full or damaged, and leaves a stream whether it answers or fails. From the
  equations follows `after_cases`, which says once what a call can do to the stream, and from
  it the frame lemmas: no call takes an event out of the log (`log_after`), a call leaves
  every cursor it does not name as it was (`find?_after`), no call gives two cursors one id
  (`nodup_after`), and only an acknowledgment moves progress, to an offset the log holds
  (`acked_after`).
-/

namespace ChangeLog

namespace CursorRegistry

/-- The ids of the open cursors, oldest first. -/
def ids (r : CursorRegistry) : List CursorId := r.cursors.map (·.1)

theorem find?_put (r : CursorRegistry) (id id' : CursorId) (c : Cursor) :
    (r.put id c).find? id' = if id' = id then some c else r.find? id' := by
  obtain ⟨xs⟩ := r
  unfold put find?
  split
  · rename_i hany
    -- a replacement keeps every id, so the search meets the same entries
    have hkeep : ((fun x : CursorId × Cursor => decide (x.1 = id')) ∘
        fun e => if e.1 = id then (id, c) else e) = fun x => decide (x.1 = id') := by
      funext e
      by_cases h : e.1 = id <;> simp [h]
    rw [List.find?_map, hkeep]
    split
    · rename_i hid
      subst hid
      obtain ⟨e, hfind⟩ :=
        Option.isSome_iff_exists.1 (List.find?_isSome.2 (List.any_eq_true.1 hany))
      have he : e.1 = id' := by simpa using List.find?_some hfind
      simp [hfind, he]
    · rename_i hid
      cases hfind : xs.find? (fun x => decide (x.1 = id')) with
      | none => simp
      | some e =>
        have : e.1 = id' := by simpa using List.find?_some hfind
        simp [this, hid]
  · rename_i hany
    simp only [List.find?_append]
    split
    · rename_i hid
      subst hid
      have : xs.find? (fun x => decide (x.1 = id')) = none :=
        List.find?_eq_none.2 fun x hx h => hany (List.any_eq_true.2 ⟨x, hx, h⟩)
      simp [this]
    · rename_i hid
      cases xs.find? (fun x => decide (x.1 = id')) <;> simp [Ne.symm hid]

@[simp] theorem find?_put_self (r : CursorRegistry) (id : CursorId) (c : Cursor) :
    (r.put id c).find? id = some c := by
  simp [find?_put]

theorem find?_put_of_ne (r : CursorRegistry) {id id' : CursorId} (c : Cursor) (h : id' ≠ id) :
    (r.put id c).find? id' = r.find? id' := by
  simp [find?_put, h]

theorem ids_put (r : CursorRegistry) (id : CursorId) (c : Cursor) :
    (r.put id c).ids = if id ∈ r.ids then r.ids else r.ids ++ [id] := by
  obtain ⟨xs⟩ := r
  unfold put ids
  by_cases h : xs.any (·.1 = id) = true
  · have hmem : id ∈ xs.map (·.1) := by simpa using h
    simp only [h, if_true, hmem, List.map_map]
    congr 1
    funext e
    by_cases he : e.1 = id <;> simp [he]
  · have hmem : id ∉ xs.map (·.1) := by simpa using h
    simp [h, hmem]

theorem nodup_put {r : CursorRegistry} (h : r.ids.Nodup) (id : CursorId) (c : Cursor) :
    (r.put id c).ids.Nodup := by
  rw [ids_put]
  split
  · exact h
  · rename_i hid
    refine List.nodup_append.2 ⟨h, List.nodup_singleton id, fun a ha b hb hab => hid ?_⟩
    rw [List.mem_singleton] at hb
    exact hb ▸ hab ▸ ha

/-- The registry without the cursor of an id. -/
theorem find?_filter (r : CursorRegistry) (id id' : CursorId) :
    CursorRegistry.find? ⟨r.cursors.filter (·.1 != id)⟩ id' =
      if id' = id then none else r.find? id' := by
  unfold find?
  rw [List.find?_filter]
  split
  · rename_i hid
    subst hid
    simp
  · rename_i hid
    congr 2
    funext e
    by_cases he : e.1 = id' <;> simp [he, hid]

theorem nodup_filter {r : CursorRegistry} (h : r.ids.Nodup) (id : CursorId) :
    CursorRegistry.ids ⟨r.cursors.filter (·.1 != id)⟩ |>.Nodup :=
  h.sublist (List.filter_sublist.map _)

end CursorRegistry

/-- The events a range from a position gives: as many as asked, cut at the end of the log. -/
theorem EventLog.range_from (l : EventLog) (p m : Nat) :
    l.range p (p + m) = (l.events.drop p).take (min m (l.nextOffset - p)) := by
  unfold EventLog.range
  dsimp only
  split
  · have : min m (l.nextOffset - p) = 0 := by omega
    simp [this]
  · congr 1
    omega

namespace Within

variable {σ ε : Type}

@[simp] theorem current_apply (s : σ) (d : Disk) :
    (Within.current : Within σ ε σ) (s, d) = .ok s (s, d) := rfl

@[simp] theorem replace_apply (s s' : σ) (d : Disk) :
    (Within.replace s' : Within σ ε Unit) (s, d) = .ok () (s', d) := rfl

end Within

/-- The state a step ends in, whether it answers or fails. -/
def stateOf {ε σ α : Type} : EStateM.Result ε σ α → σ
  | .ok _ x => x
  | .error _ x => x

@[simp] theorem stateOf_ok {ε σ α : Type} (a : α) (x : σ) :
    stateOf (.ok a x : EStateM.Result ε σ α) = x := rfl

@[simp] theorem stateOf_error {ε σ α : Type} (e : ε) (x : σ) :
    stateOf (.error e x : EStateM.Result ε σ α) = x := rfl

namespace EventStore

variable (st : EventStore) (d : Disk)

theorem append_run (e : NewEvent) (now : Instant) :
    EventStore.append e now (st, d) =
      if st.log.closed then .error .closed (st, d)
      else match st.journal with
        | none => .ok (e.stamp st.nextOffset now)
            ({ st with log := st.log.publish (e.stamp st.nextOffset now) }, d)
        | some j =>
          match j.append (e.stamp st.nextOffset now).encode d with
          | .ok (j', _) d' => .ok (e.stamp st.nextOffset now)
              ({ st with journal := some j', log := st.log.publish (e.stamp st.nextOffset now) }, d')
          | .error err d' => .error err (st, d') := by
  cases hclosed : st.log.closed with
  | true =>
    simp only [EventStore.append, ensureOpen, bind, EStateM.bind, Within.current_apply, hclosed,
      if_true]
    rfl
  | false =>
    simp only [EventStore.append, ensureOpen, bind, EStateM.bind, Within.current_apply, hclosed,
      Bool.false_eq_true, if_false]
    cases hj : st.journal with
    | none =>
      simp only [hj, pure, EStateM.pure, Within.current_apply, EStateM.bind, Within.replace_apply]
    | some j =>
      simp only [hj, pure, EStateM.pure, Within.current_apply, EStateM.bind, Within.disk]
      cases j.append (e.stamp st.nextOffset now).encode d <;> rfl

theorem close_run :
    EventStore.close (st, d) =
      if st.log.closed then .ok () (st, d)
      else match st.journal with
        | none => .ok () ({ st with log := { st.log with closed := true } }, d)
        | some j =>
          match j.sync d with
          | .ok () d' => .ok () ({ st with log := { st.log with closed := true } }, d')
          | .error err d' => .error err ({ st with log := { st.log with closed := true } }, d') := by
  cases hclosed : st.log.closed with
  | true =>
    simp only [EventStore.close, bind, EStateM.bind, Within.current_apply, hclosed, if_true]
    rfl
  | false =>
    simp only [EventStore.close, bind, EStateM.bind, Within.current_apply, hclosed,
      Bool.false_eq_true, if_false, Within.replace_apply]
    cases hj : st.journal with
    | none => rfl
    | some j =>
      simp only [Within.disk]
      cases j.sync d <;> rfl

end EventStore

namespace AckTracker

theorem acked_onStore {α : Type} (m : Within ProgressStore StoreError α) (t : AckTracker) (d : Disk) :
    (stateOf (onStore m (t, d))).1.acked = t.acked := by
  simp only [onStore, Within.focus, Within.mapError, EStateM.adaptExcept]
  rcases m (t.store, d) with ⟨a, st, d'⟩ | ⟨e, st, d'⟩ <;> rfl

theorem acked_acknowledge (t : AckTracker) (d : Disk) (c : ConsumerId) (o n : Nat) :
    (stateOf (acknowledge c o n (t, d))).1.acked = t.acked ∨
      (o < n ∧ (stateOf (acknowledge c o n (t, d))).1.acked = t.acked.insert c o) := by
  by_cases hn : n ≤ o
  · left
    simp only [acknowledge, hn, if_true, bind, EStateM.bind]
    rfl
  · have hacked := acked_onStore (ProgressStore.record c o) t d
    simp only [acknowledge, hn, if_false, bind, EStateM.bind, pure, Within.current_apply]
    -- a raise writes the store first; the progress moves only once the write is done
    rcases hs : onStore (ProgressStore.record c o) (t, d) with ⟨u, t', d'⟩ | ⟨e, t', d'⟩ <;>
      rw [hs, stateOf] at hacked <;> rcases t.progress c with _ | cur
    · right
      refine ⟨by omega, ?_⟩
      simp only [EStateM.bind, hs, Within.current_apply, Within.replace_apply, EStateM.pure, stateOf_ok]
      rw [hacked]
    · by_cases hle : o ≤ cur
      · left
        simp only [hle, if_true, EStateM.pure, stateOf_ok]
      · right
        refine ⟨by omega, ?_⟩
        simp only [hle, if_false, EStateM.bind, hs, Within.current_apply, Within.replace_apply,
          EStateM.pure, stateOf_ok]
        rw [hacked]
    · left
      simp only [EStateM.bind, hs, stateOf_error]
      exact hacked
    · left
      by_cases hle : o ≤ cur
      · simp only [hle, if_true, EStateM.pure, stateOf_ok]
      · simp only [hle, if_false, EStateM.bind, hs, stateOf_error]
        exact hacked

end AckTracker

namespace ChangeStream

variable (s : ChangeStream) (d : Disk)

@[simp] theorem lift_ok {α : Type} (a : α) (x : ChangeStream × Disk) :
    ChangeStream.lift (.ok a) x = .ok a x := rfl

@[simp] theorem lift_error {α : Type} (e : StreamError) (x : ChangeStream × Disk) :
    (ChangeStream.lift (.error e) : Within ChangeStream StreamError α) x = .error e x := rfl

theorem ensureOpen_run :
    ensureOpen (s, d) = if s.isClosed then .error .closed (s, d) else .ok () (s, d) := by
  simp only [ensureOpen, bind, EStateM.bind, Within.current_apply]
  split <;> rfl

/-- An operation behind the open check is refused on a closed stream and runs as it is on an
open one; every operation but appending and closing starts so. -/
theorem ensureOpen_bind {α : Type} (f : Unit → Within ChangeStream StreamError α) :
    (ensureOpen >>= f) (s, d) = if s.isClosed then .error .closed (s, d) else f () (s, d) := by
  simp only [bind, EStateM.bind, ensureOpen_run]
  cases s.isClosed <;> rfl

/-- How many events a read asking for a count returns from a position: no more than asked,
than the configured batch, or than the log holds from there. -/
def batchSize (max p : Nat) : Nat := min (min max s.config.maxReadBatch) (s.nextOffset - p)

theorem readBatch_run (id : CursorId) (max : Nat) :
    readBatch id max (s, d) =
      if s.isClosed then .error .closed (s, d)
      else match s.cursors.find? id with
        | none => .error (.cursorNotFound id) (s, d)
        | some c =>
          .ok ((s.events.log.events.drop c.position).take (s.batchSize max c.position),
              c.position + s.batchSize max c.position)
            ({ s with
              cursors := s.cursors.put id { c with position := c.position + s.batchSize max c.position } },
              d) := by
  rw [readBatch, ensureOpen_bind]
  cases hclosed : s.isClosed with
  | true => rfl
  | false =>
    have hopen : s.events.log.closed = false := hclosed
    simp only [Bool.false_eq_true, if_false, bind, EStateM.bind, Within.current_apply,
      CursorRegistry.readBatch]
    cases hc : s.cursors.find? id with
    | none => rfl
    | some c =>
      have hlen : ((s.events.log.events.drop c.position).take
          (min (min max s.config.maxReadBatch) (s.nextOffset - c.position))).length =
          min (min max s.config.maxReadBatch) (s.nextOffset - c.position) := by
        simp only [List.length_take, List.length_drop]
        simp only [nextOffset, EventStore.nextOffset, EventLog.nextOffset]
        omega
      simp only [EventStore.readRange, hopen, Bool.false_eq_true, if_false, EventLog.range_from]
      simp only [nextOffset, EventStore.nextOffset] at hlen ⊢
      simp only [hlen, lift_ok, Within.replace_apply, batchSize, nextOffset, EventStore.nextOffset]
      rfl

theorem onEvents_run {α : Type} (m : Within EventStore StoreError α) :
    onEvents m (s, d) =
      match m (s.events, d) with
      | .ok a (st, d') => .ok a ({ s with events := st }, d')
      | .error e (st, d') => .error (.ofStore e) ({ s with events := st }, d') := by
  simp only [onEvents, Within.focus, Within.mapError, EStateM.adaptExcept]
  cases m (s.events, d) <;> rfl

theorem append_run (e : NewEvent) (now : Instant) :
    append e now (s, d) =
      if Unicode.isBlank e.eventType then
        .error (.invalidEventType "event type must not be empty") (s, d)
      else match EventStore.append e now (s.events, d) with
        | .ok ev (st, d') => .ok ev ({ s with events := st }, d')
        | .error err (st, d') => .error (.ofStore err) ({ s with events := st }, d') := by
  by_cases hblank : Unicode.isBlank e.eventType = true
  · simp only [append, hblank, if_true]
    rfl
  · simp only [append, hblank, Bool.false_eq_true, if_false, bind, EStateM.bind, ensureOpen_run]
    cases hclosed : s.isClosed with
    | true =>
      -- the store refuses too, and its refusal is the stream's
      have hstore : s.events.log.closed = true := hclosed
      simp only [if_true, EventStore.append_run, hstore]
      rfl
    | false =>
      simp only [Bool.false_eq_true, if_false, onEvents_run]
      rcases EventStore.append e now (s.events, d) with ⟨a, st, d'⟩ | ⟨err, st, d'⟩ <;> rfl

theorem close_run :
    close (s, d) =
      match EventStore.close (s.events, d) with
      | .ok () (st, d') => .ok () ({ s with events := st }, d')
      | .error e (st, d') => .error (.ofStore e) ({ s with events := st }, d') := by
  simp only [close, onEvents_run]
  rcases EventStore.close (s.events, d) with ⟨⟨⟩, st, d'⟩ | ⟨err, st, d'⟩ <;> rfl

theorem subscribe_run (id : CursorId) (f : Nat) (owner : Option String) :
    subscribe id f owner (s, d) =
      if s.isClosed then .error .closed (s, d)
      else if s.nextOffset < f then .error (.outOfRange f s.nextOffset) (s, d)
      else .ok () ({ s with cursors := s.cursors.put id ⟨owner, f, f⟩ }, d) := by
  rw [subscribe, ensureOpen_bind]
  congr 1
  simp only [bind, EStateM.bind, Within.current_apply, CursorRegistry.subscribe, gt_iff_lt]
  -- the registry checks the offset against the store, which is the stream's next offset
  by_cases hf : s.nextOffset < f
  · have : s.events.nextOffset < f := hf
    simp only [hf, this, if_true, lift_error]
    rfl
  · have : ¬ s.events.nextOffset < f := hf
    simp only [hf, this, if_false, lift_ok, Within.replace_apply]

theorem unsubscribe_run (id : CursorId) :
    unsubscribe id (s, d) =
      if s.isClosed then .error .closed (s, d)
      else if s.cursors.cursors.any (·.1 = id) then
        .ok () ({ s with cursors := ⟨s.cursors.cursors.filter (·.1 != id)⟩ }, d)
      else .error (.cursorNotFound id) (s, d) := by
  rw [unsubscribe, ensureOpen_bind]
  congr 1
  simp only [bind, EStateM.bind, Within.current_apply, CursorRegistry.unsubscribe]
  by_cases hany : s.cursors.cursors.any (·.1 = id) = true
  · simp only [hany, if_true, lift_ok, Within.replace_apply]
  · simp only [hany, Bool.false_eq_true, if_false, lift_error]

theorem cursorInfo_run (id : CursorId) :
    cursorInfo id (s, d) =
      if s.isClosed then .error .closed (s, d)
      else match s.cursors.info id with
        | .ok c => .ok c (s, d)
        | .error e => .error e (s, d) := by
  rw [cursorInfo, ensureOpen_bind]
  congr 1
  show lift (s.cursors.info id) (s, d) = _
  cases s.cursors.info id <;> rfl

theorem progress_run (c : ConsumerId) :
    progress c (s, d) =
      if s.isClosed then .error .closed (s, d) else .ok (s.acks.progress c) (s, d) := by
  rw [progress, ensureOpen_bind]
  rfl

theorem resumeOffset_run (c : ConsumerId) :
    resumeOffset c (s, d) =
      if s.isClosed then .error .closed (s, d) else .ok (s.acks.resumeOffset c) (s, d) := by
  rw [resumeOffset, ensureOpen_bind]
  rfl

theorem consumers_run :
    consumers (s, d) = if s.isClosed then .error .closed (s, d) else .ok s.acks.all (s, d) := by
  rw [consumers, ensureOpen_bind]
  rfl

theorem replay_run (lo hi : Nat) :
    replay lo hi (s, d) =
      if s.isClosed then .error .closed (s, d)
      else match Replay.range s.events lo hi with
        | .ok es => .ok es (s, d)
        | .error e => .error e (s, d) := by
  rw [replay, ensureOpen_bind]
  congr 1
  show lift (Replay.range s.events lo hi) (s, d) = _
  cases Replay.range s.events lo hi <;> rfl

theorem replayFrom_run (lo : Nat) :
    replayFrom lo (s, d) =
      if s.isClosed then .error .closed (s, d)
      else match Replay.fromOffset s.events lo with
        | .ok es => .ok es (s, d)
        | .error e => .error e (s, d) := by
  rw [replayFrom, ensureOpen_bind]
  congr 1
  show lift (Replay.fromOffset s.events lo) (s, d) = _
  cases Replay.fromOffset s.events lo <;> rfl

theorem acknowledge_run (c : ConsumerId) (o : Nat) :
    acknowledge c o (s, d) =
      if s.isClosed then .error .closed (s, d)
      else match AckTracker.acknowledge c o s.nextOffset (s.acks, d) with
        | .ok p (t, d') => .ok p ({ s with acks := t }, d')
        | .error e (t, d') => .error e ({ s with acks := t }, d') := by
  rw [acknowledge, ensureOpen_bind]
  congr 1
  show onAcks (AckTracker.acknowledge c o s.nextOffset) (s, d) = _
  simp only [onAcks, Within.focus]
  cases AckTracker.acknowledge c o s.nextOffset (s.acks, d) <;> rfl

end ChangeStream

/-- A call of one of the stream's operations. -/
inductive Call where
  | append (e : NewEvent) (now : Instant)
  | get (offset : Nat)
  | subscribe (id : CursorId) (fromOffset : Nat) (owner : Option String)
  | readBatch (id : CursorId) (max : Nat)
  | unsubscribe (id : CursorId)
  | cursorInfo (id : CursorId)
  | acknowledge (c : ConsumerId) (offset : Nat)
  | progress (c : ConsumerId)
  | resumeOffset (c : ConsumerId)
  | consumers
  | replay (lo hi : Nat)
  | replayFrom (lo : Nat)
  | close

/-- What a call answers. -/
inductive Answer where
  | done
  | event (e : ChangeEvent)
  | events (es : List ChangeEvent)
  | batch (es : List ChangeEvent) (position : Nat)
  | cursor (c : Cursor)
  | offset (o : Nat)
  | progress (o : Option Nat)
  | consumers (all : List (ConsumerId × Nat))

namespace Call

/-- Runs a call on the stream. -/
def perform : Call → Within ChangeStream StreamError Answer
  | append e now => return .event (← ChangeStream.append e now)
  | get o => return .event (← ChangeStream.lift ((← Within.current).get o))
  | subscribe id f owner => do ChangeStream.subscribe id f owner; return .done
  | readBatch id max => do let (es, p) ← ChangeStream.readBatch id max; return .batch es p
  | unsubscribe id => do ChangeStream.unsubscribe id; return .done
  | cursorInfo id => return .cursor (← ChangeStream.cursorInfo id)
  | acknowledge c o => return .offset (← ChangeStream.acknowledge c o)
  | progress c => return .progress (← ChangeStream.progress c)
  | resumeOffset c => return .offset (← ChangeStream.resumeOffset c)
  | consumers => return .consumers (← ChangeStream.consumers)
  | replay lo hi => return .events (← ChangeStream.replay lo hi)
  | replayFrom lo => return .events (← ChangeStream.replayFrom lo)
  | close => do ChangeStream.close; return .done

/-- The stream a call leaves, whether it answers or fails. -/
def after (call : Call) (s : ChangeStream) (d : Disk) : ChangeStream :=
  (stateOf (call.perform (s, d))).1

/-- The cursor a call names. -/
def cursor? : Call → Option CursorId
  | subscribe id .. | readBatch id _ | unsubscribe id | cursorInfo id => some id
  | _ => none

/-- Whether a call may change the stream: the queries do not. -/
def writes : Call → Bool
  | append .. | subscribe .. | readBatch .. | unsubscribe _ | acknowledge .. | close => true
  | _ => false

theorem stateOf_bind_pure {σ ε α β : Type} (m : EStateM ε σ α) (f : α → β) (x : σ) :
    stateOf ((m >>= fun a => pure (f a)) x) = stateOf (m x) := by
  simp only [bind, EStateM.bind, pure, EStateM.pure]
  cases m x <;> rfl

variable (s : ChangeStream) (d : Disk)

/-- A query leaves the stream and the disk as they were, whether it answers or fails. -/
theorem stateOf_of_writes (call : Call) (h : call.writes = false) :
    stateOf (call.perform (s, d)) = (s, d) := by
  cases call <;> simp only [writes, Bool.true_eq_false] at h <;>
    simp only [perform, stateOf_bind_pure]
  case get o =>
    simp only [bind, EStateM.bind, Within.current_apply]
    cases s.get o <;> rfl
  case cursorInfo id =>
    rw [ChangeStream.cursorInfo_run]
    split
    · rfl
    · cases s.cursors.info id <;> rfl
  case progress c => rw [ChangeStream.progress_run]; split <;> rfl
  case resumeOffset c => rw [ChangeStream.resumeOffset_run]; split <;> rfl
  case consumers => rw [ChangeStream.consumers_run]; split <;> rfl
  case replay lo hi =>
    rw [ChangeStream.replay_run]
    split
    · rfl
    · cases Replay.range s.events lo hi <;> rfl
  case replayFrom lo =>
    rw [ChangeStream.replayFrom_run]
    split
    · rfl
    · cases Replay.fromOffset s.events lo <;> rfl

theorem after_of_writes (call : Call) (h : call.writes = false) : call.after s d = s := by
  rw [after, stateOf_of_writes s d call h]

theorem after_append (e : NewEvent) (now : Instant) :
    ∃ st, (append e now).after s d = { s with events := st } ∧
      (st.log.events = s.events.log.events ∨
        st.log.events = s.events.log.events ++ [e.stamp s.nextOffset now]) := by
  simp only [after, perform, stateOf_bind_pure, ChangeStream.append_run, EventStore.append_run]
  by_cases hblank : Unicode.isBlank e.eventType = true
  · simp only [hblank, if_true, stateOf_error]
    exact ⟨s.events, rfl, Or.inl rfl⟩
  · simp only [hblank, Bool.false_eq_true, if_false]
    by_cases hclosed : s.events.log.closed = true
    · simp only [hclosed, if_true, stateOf_error]
      exact ⟨s.events, rfl, Or.inl rfl⟩
    · simp only [hclosed, Bool.false_eq_true, if_false]
      cases s.events.journal with
      | none => exact ⟨_, rfl, Or.inr rfl⟩
      | some j =>
        simp only
        rcases j.append (e.stamp s.events.nextOffset now).encode d with ⟨⟨j', _⟩, d'⟩ | ⟨err, d'⟩
        · exact ⟨_, rfl, Or.inr rfl⟩
        · exact ⟨s.events, rfl, Or.inl rfl⟩

theorem after_close : ∃ st, close.after s d = { s with events := st } ∧
    st.log.events = s.events.log.events := by
  simp only [after, perform, stateOf_bind_pure, ChangeStream.close_run, EventStore.close_run]
  by_cases hclosed : s.events.log.closed = true
  · simp only [hclosed, if_true, stateOf_ok]
    exact ⟨s.events, rfl, rfl⟩
  · simp only [hclosed, Bool.false_eq_true, if_false]
    cases s.events.journal with
    | none => exact ⟨_, rfl, rfl⟩
    | some j =>
      simp only
      rcases j.sync d with ⟨⟨⟩, d'⟩ | ⟨err, d'⟩ <;> exact ⟨_, rfl, rfl⟩

theorem after_acknowledge (c : ConsumerId) (o : Nat) :
    ∃ t, (acknowledge c o).after s d = { s with acks := t } ∧
      (t.acked = s.acks.acked ∨ (o < s.nextOffset ∧ t.acked = s.acks.acked.insert c o)) := by
  simp only [after, perform, stateOf_bind_pure, ChangeStream.acknowledge_run]
  split
  · exact ⟨s.acks, rfl, Or.inl rfl⟩
  · have hacked := AckTracker.acked_acknowledge s.acks d c o s.nextOffset
    rcases h : AckTracker.acknowledge c o s.nextOffset (s.acks, d) with ⟨p, t, d'⟩ | ⟨e, t, d'⟩ <;>
      rw [h] at hacked <;> exact ⟨t, rfl, hacked⟩

theorem after_subscribe (id : CursorId) (f : Nat) (owner : Option String) :
    (subscribe id f owner).after s d =
      if s.isClosed = false ∧ f ≤ s.nextOffset then
        { s with cursors := s.cursors.put id ⟨owner, f, f⟩ }
      else s := by
  simp only [after, perform, bind, EStateM.bind, ChangeStream.subscribe_run]
  by_cases hclosed : s.isClosed = true
  · simp [hclosed]
  · by_cases hf : s.nextOffset < f
    · simp [hclosed, hf]
    · simp [hclosed, hf, Nat.le_of_not_lt hf, pure, EStateM.pure]

theorem after_readBatch (id : CursorId) (max : Nat) :
    (readBatch id max).after s d =
      if s.isClosed then s
      else match s.cursors.find? id with
        | none => s
        | some c =>
          { s with
            cursors := s.cursors.put id { c with position := c.position + s.batchSize max c.position } } := by
  simp only [after, perform, bind, EStateM.bind, ChangeStream.readBatch_run]
  cases s.isClosed with
  | true => rfl
  | false =>
    simp only [Bool.false_eq_true, if_false]
    cases s.cursors.find? id <;> rfl

theorem after_unsubscribe (id : CursorId) :
    (unsubscribe id).after s d =
      if s.isClosed = false ∧ s.cursors.cursors.any (·.1 = id) then
        { s with cursors := ⟨s.cursors.cursors.filter (·.1 != id)⟩ }
      else s := by
  simp only [after, perform, bind, EStateM.bind, ChangeStream.unsubscribe_run]
  by_cases hclosed : s.isClosed = true
  · simp [hclosed]
  · by_cases hany : s.cursors.cursors.any (·.1 = id) = true
    · simp [hclosed, hany, pure, EStateM.pure]
    · simp [hclosed, hany]

/-- What a call can do to the stream: nothing; add to the log; set or drop the cursor it
names; or move the tracker, whose progress then stays or takes an offset below the next one. -/
theorem after_cases (call : Call) :
    call.after s d = s ∨
    (∃ st, call.after s d = { s with events := st } ∧
      ∃ new, st.log.events = s.events.log.events ++ new) ∨
    (∃ id c, call.cursor? = some id ∧ call.after s d = { s with cursors := s.cursors.put id c }) ∨
    (∃ id, call.cursor? = some id ∧
      call.after s d = { s with cursors := ⟨s.cursors.cursors.filter (·.1 != id)⟩ }) ∨
    (∃ t, call.after s d = { s with acks := t } ∧
      (t.acked = s.acks.acked ∨ ∃ c o, o < s.nextOffset ∧ t.acked = s.acks.acked.insert c o)) := by
  cases hw : call.writes
  · exact Or.inl (after_of_writes s d call hw)
  cases call <;> simp only [writes, Bool.false_eq_true] at hw
  case append e now =>
    obtain ⟨st, hst, hlog | hlog⟩ := after_append s d e now
    · exact Or.inr (Or.inl ⟨st, hst, [], by simp [hlog]⟩)
    · exact Or.inr (Or.inl ⟨st, hst, _, hlog⟩)
  case subscribe id f owner =>
    rw [after_subscribe]
    split
    · exact Or.inr (Or.inr (Or.inl ⟨id, _, rfl, rfl⟩))
    · exact Or.inl rfl
  case readBatch id max =>
    rw [after_readBatch]
    split
    · exact Or.inl rfl
    · split
      · exact Or.inl rfl
      · exact Or.inr (Or.inr (Or.inl ⟨id, _, rfl, rfl⟩))
  case unsubscribe id =>
    rw [after_unsubscribe]
    split
    · exact Or.inr (Or.inr (Or.inr (Or.inl ⟨id, rfl, rfl⟩)))
    · exact Or.inl rfl
  case acknowledge c o =>
    obtain ⟨t, ht, hacked | ⟨ho, hacked⟩⟩ := after_acknowledge s d c o
    · exact Or.inr (Or.inr (Or.inr (Or.inr ⟨t, ht, Or.inl hacked⟩)))
    · exact Or.inr (Or.inr (Or.inr (Or.inr ⟨t, ht, Or.inr ⟨c, o, ho, hacked⟩⟩)))
  case close =>
    obtain ⟨st, hst, hlog⟩ := after_close s d
    exact Or.inr (Or.inl ⟨st, hst, [], by simp [hlog]⟩)

/-- No call takes an event out of the log: the log after a call extends the log before it. -/
theorem log_after (call : Call) :
    ∃ new, (call.after s d).events.log.events = s.events.log.events ++ new := by
  rcases after_cases s d call with h | ⟨st, h, hlog⟩ | ⟨_, _, _, h⟩ | ⟨_, _, h⟩ | ⟨_, h, _⟩ <;>
    rw [h]
  · exact ⟨[], (List.append_nil _).symm⟩
  · exact hlog
  all_goals exact ⟨[], (List.append_nil _).symm⟩

theorem nextOffset_le_after (call : Call) : s.nextOffset ≤ (call.after s d).nextOffset := by
  obtain ⟨new, hnew⟩ := log_after s d call
  have : (call.after s d).nextOffset = s.nextOffset + new.length := by
    simp [ChangeStream.nextOffset, EventStore.nextOffset, EventLog.nextOffset, hnew]
  omega

/-- A call that names another cursor, or none, leaves a cursor as it was. -/
theorem find?_after (call : Call) {id : CursorId} (hid : call.cursor? ≠ some id) :
    (call.after s d).cursors.find? id = s.cursors.find? id := by
  rcases after_cases s d call with
    h | ⟨_, h, _⟩ | ⟨id', c, hname, h⟩ | ⟨id', hname, h⟩ | ⟨_, h, _⟩ <;> rw [h]
  · -- the cursor set is the one the call names, which is another
    have hne : id ≠ id' := fun e => hid (e ▸ hname)
    exact CursorRegistry.find?_put_of_ne _ _ hne
  · have hne : id ≠ id' := fun e => hid (e ▸ hname)
    rw [CursorRegistry.find?_filter, if_neg hne]

/-- No call gives two open cursors one id. -/
theorem nodup_after (call : Call) (h : s.cursors.ids.Nodup) : (call.after s d).cursors.ids.Nodup := by
  rcases after_cases s d call with
    he | ⟨_, he, _⟩ | ⟨id, c, _, he⟩ | ⟨id, _, he⟩ | ⟨_, he, _⟩ <;> rw [he]
  · exact h
  · exact h
  · exact CursorRegistry.nodup_put h id c
  · exact CursorRegistry.nodup_filter h id
  · exact h

/-- Only an acknowledgment moves progress, and only to an offset the log holds. -/
theorem acked_after (call : Call) :
    (call.after s d).acks.acked = s.acks.acked ∨
      ∃ c o, o < s.nextOffset ∧ (call.after s d).acks.acked = s.acks.acked.insert c o := by
  rcases after_cases s d call with
    h | ⟨_, h, _⟩ | ⟨_, _, _, h⟩ | ⟨_, _, h⟩ | ⟨t, h, hacked⟩ <;> rw [h]
  · exact Or.inl rfl
  · exact Or.inl rfl
  · exact Or.inl rfl
  · exact Or.inl rfl
  · exact hacked

end Call

end ChangeLog
