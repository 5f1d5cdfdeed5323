import ChangeLog.Proofs.Stream.Calls
import ChangeLog.Server.Router
/-
  Cursor delivery: what the reader of a cursor gets. A read returns the stored events from
  the cursor's position on, as many as the count, the configured batch and the log allow,
  and moves the cursor past them. Over any sequence of calls from a stream with no cursors,
  every open cursor stands between the offset it was opened at and the end of the log, and
  the batches it handed out, put together, are the events in between, which a replay of that
  range returns too. Calls on other cursors leave a cursor as it was, and no two open cursors
  share an id. A read over HTTP answers with the batch and position of the read it makes.

  What the cursors handed out is kept by a client beside the stream (`Client`); the client's
  stream is the one the calls leave (`stream_call`), so the client only records.

  Main statement: `cursor_delivery`.
-/

namespace ChangeLog

section Slices

variable {α : Type}

/-- Events appended to a log keep a slice that ends within it. -/
theorem slice_append_of_le (l new : List α) {f p : Nat} (h : p ≤ l.length) :
    ((l ++ new).drop f).take (p - f) = (l.drop f).take (p - f) := by
  rcases Nat.lt_or_ge l.length f with hf | hf
  · have : p - f = 0 := by omega
    simp [this]
  · rw [List.drop_append_of_le_length hf, List.take_append_of_le_length]
    simp only [List.length_drop]
    omega

/-- A read from where a slice ends extends the slice. -/
theorem slice_extend (l : List α) {f p : Nat} (h : f ≤ p) (b : Nat) :
    (l.drop f).take (p - f) ++ (l.drop p).take b = (l.drop f).take (p + b - f) := by
  have hsum : p + b - f = (p - f) + b := by omega
  have hdrop : (l.drop f).drop (p - f) = l.drop p := by
    rw [List.drop_drop]
    congr 1
    omega
  rw [hsum, List.take_add, hdrop]

end Slices

/-- A client of a stream: the stream, and for each cursor the events it has handed out since
it was opened. -/
structure Client where
  stream : ChangeStream
  delivered : CursorId → List ChangeEvent

namespace Client

/-- What a call hands out through a cursor: a subscription starts the cursor afresh, a read
adds its batch. -/
def note (delivered : CursorId → List ChangeEvent) : Call → Answer → CursorId → List ChangeEvent
  | .subscribe id _ _, _ => Function.update delivered id []
  | .readBatch id _, .batch es _ => Function.update delivered id (delivered id ++ es)
  | _, _ => delivered

/-- Makes a call, with the disk as the environment left it. -/
def call (k : Client) (c : Call) (d : Disk) : Client :=
  match c.perform (k.stream, d) with
  | .ok a (s, _) => ⟨s, note k.delivered c a⟩
  | .error _ (s, _) => ⟨s, k.delivered⟩

/-- Makes calls in order. -/
def run (k : Client) : List (Call × Disk) → Client
  | [] => k
  | (c, d) :: rest => (k.call c d).run rest

variable (k : Client) (d : Disk)

theorem stream_call (c : Call) : (k.call c d).stream = c.after k.stream d := by
  unfold call Call.after
  cases c.perform (k.stream, d) <;> rfl

theorem note_of_ne (delivered : CursorId → List ChangeEvent) (c : Call) (a : Answer) {id : CursorId}
    (h : c.cursor? ≠ some id) : note delivered c a id = delivered id := by
  cases c with
  | subscribe id' f owner =>
    have hne : id ≠ id' := fun e => h (e ▸ rfl)
    exact Function.update_of_ne hne _ _
  | readBatch id' max =>
    have hne : id ≠ id' := fun e => h (e ▸ rfl)
    cases a <;> simp only [note]
    exact Function.update_of_ne hne _ _
  | _ => rfl

theorem delivered_call_of_ne (c : Call) {id : CursorId} (h : c.cursor? ≠ some id) :
    (k.call c d).delivered id = k.delivered id := by
  unfold call
  cases c.perform (k.stream, d) with
  | ok a x => exact note_of_ne k.delivered c a h
  | error e x => rfl

/-- A call that hands nothing out through a cursor only moves the stream. -/
theorem call_of_keeps (c : Call) (h : ∀ a, note k.delivered c a = k.delivered) :
    k.call c d = ⟨c.after k.stream d, k.delivered⟩ := by
  unfold call Call.after
  rcases c.perform (k.stream, d) with ⟨a, s, d'⟩ | ⟨e, s, d'⟩
  · exact congrArg (Client.mk s) (h a)
  · rfl

theorem call_subscribe (id : CursorId) (f : Nat) (owner : Option String) :
    k.call (.subscribe id f owner) d =
      if k.stream.isClosed = false ∧ f ≤ k.stream.nextOffset then
        ⟨{ k.stream with cursors := k.stream.cursors.put id ⟨owner, f, f⟩ },
          Function.update k.delivered id []⟩
      else k := by
  unfold call
  simp only [Call.perform, bind, EStateM.bind, ChangeStream.subscribe_run]
  by_cases hclosed : k.stream.isClosed = true
  · simp [hclosed]
  · by_cases hf : k.stream.nextOffset < f
    · simp [hclosed, hf]
    · simp [hclosed, hf, Nat.le_of_not_lt hf, pure, EStateM.pure, note]

theorem call_readBatch (id : CursorId) (max : Nat) :
    k.call (.readBatch id max) d =
      if k.stream.isClosed then k
      else match k.stream.cursors.find? id with
        | none => k
        | some c =>
          ⟨{ k.stream with
              cursors := k.stream.cursors.put id
                { c with position := c.position + k.stream.batchSize max c.position } },
            Function.update k.delivered id (k.delivered id ++
              (k.stream.events.log.events.drop c.position).take (k.stream.batchSize max c.position))⟩ := by
  unfold call
  simp only [Call.perform, bind, EStateM.bind, ChangeStream.readBatch_run]
  cases k.stream.isClosed with
  | true => rfl
  | false =>
    simp only [Bool.false_eq_true, if_false]
    cases k.stream.cursors.find? id <;> rfl

/-- A cursor stands between where it was opened and the end of the log, and has handed out
exactly the events in between, in order. -/
def Placed (id : CursorId) (c : Cursor) : Prop :=
  c.fromOffset ≤ c.position ∧ c.position ≤ k.stream.nextOffset ∧
    k.delivered id = (k.stream.events.log.events.drop c.fromOffset).take (c.position - c.fromOffset)

/-- What the reader of a client's cursors can count on. -/
structure Sound : Prop where
  nodup : k.stream.cursors.ids.Nodup
  placed : ∀ id c, k.stream.cursors.find? id = some c → k.Placed id c

theorem sound_of_empty (h : k.stream.cursors.cursors = []) : k.Sound := by
  refine ⟨?_, ?_⟩
  · simp [CursorRegistry.ids, h]
  · intro id c hc
    simp [CursorRegistry.find?, h] at hc

/-- A call leaves a cursor it does not name where it was, with what it handed out. -/
theorem Placed.call {k : Client} {id : CursorId} {cur : Cursor} (hp : k.Placed id cur) (d : Disk)
    (c : Call) (h : c.cursor? ≠ some id) : (k.call c d).Placed id cur := by
  obtain ⟨hf, hle, hdel⟩ := hp
  obtain ⟨new, hnew⟩ := Call.log_after k.stream d c
  have hgrow := Call.nextOffset_le_after k.stream d c
  refine ⟨hf, ?_, ?_⟩
  · rw [stream_call]
    omega
  · have hlen : cur.position ≤ k.stream.events.log.events.length := hle
    rw [delivered_call_of_ne k d c h, hdel, stream_call, hnew, slice_append_of_le _ _ hlen]

section Named

variable {k : Client} (hk : k.Sound) (d : Disk) {id : CursorId} {cur : Cursor}
include hk

/-- A subscription that succeeds opens its cursor at its offset, with nothing handed out. -/
theorem Sound.placed_subscribe (f : Nat) (owner : Option String)
    (hcur : (k.call (.subscribe id f owner) d).stream.cursors.find? id = some cur) :
    (k.call (.subscribe id f owner) d).Placed id cur := by
  rw [call_subscribe] at hcur ⊢
  split
  · rename_i hopen
    rw [if_pos hopen, CursorRegistry.find?_put_self, Option.some.injEq] at hcur
    subst hcur
    refine ⟨Nat.le_refl _, hopen.2, ?_⟩
    simp
  · rename_i hopen
    rw [if_neg hopen] at hcur
    exact hk.placed _ cur hcur

/-- A read moves its cursor by its batch, which extends what the cursor handed out. -/
theorem Sound.placed_readBatch (max : Nat)
    (hcur : (k.call (.readBatch id max) d).stream.cursors.find? id = some cur) :
    (k.call (.readBatch id max) d).Placed id cur := by
  rw [call_readBatch] at hcur ⊢
  split
  · rename_i hclosed
    rw [if_pos hclosed] at hcur
    exact hk.placed _ cur hcur
  · rename_i hclosed
    rw [if_neg hclosed] at hcur
    cases hfind : k.stream.cursors.find? id with
    | none =>
      rw [hfind] at hcur
      exact hk.placed _ cur hcur
    | some c0 =>
      rw [hfind, CursorRegistry.find?_put_self, Option.some.injEq] at hcur
      subst hcur
      obtain ⟨hf, hle, hdel⟩ := hk.placed id c0 hfind
      have hsize : k.stream.batchSize max c0.position ≤ k.stream.nextOffset - c0.position := by
        unfold ChangeStream.batchSize
        omega
      refine ⟨?_, ?_, ?_⟩
      · show c0.fromOffset ≤ c0.position + _
        omega
      · show c0.position + _ ≤ k.stream.nextOffset
        omega
      · -- the batch is the log from the position on, so the slice grows by it
        show Function.update k.delivered id _ id = _
        rw [Function.update_self, hdel, slice_extend _ hf]

/-- An unsubscribe that succeeds leaves no cursor under its id. -/
theorem Sound.placed_unsubscribe
    (hcur : (k.call (.unsubscribe id) d).stream.cursors.find? id = some cur) :
    (k.call (.unsubscribe id) d).Placed id cur := by
  rw [call_of_keeps k d _ fun _ => rfl, Call.after_unsubscribe] at hcur ⊢
  split at hcur
  · rw [CursorRegistry.find?_filter, if_pos rfl] at hcur
    cases hcur
  · rename_i hkept
    rw [if_neg hkept]
    exact hk.placed _ cur hcur

end Named

theorem Sound.call {k : Client} (hk : k.Sound) (d : Disk) (c : Call) : (k.call c d).Sound := by
  refine ⟨?_, ?_⟩
  · rw [stream_call]
    exact Call.nodup_after k.stream d c hk.nodup
  intro id cur hcur
  by_cases hname : c.cursor? = some id
  · -- the call names this cursor: it opened it, read from it, closed it, or asked after it
    cases c with
    | subscribe id' f owner =>
      obtain rfl : id = id' := by simpa [Call.cursor?, eq_comm] using hname
      exact hk.placed_subscribe d f owner hcur
    | readBatch id' max =>
      obtain rfl : id = id' := by simpa [Call.cursor?, eq_comm] using hname
      exact hk.placed_readBatch d max hcur
    | unsubscribe id' =>
      obtain rfl : id = id' := by simpa [Call.cursor?, eq_comm] using hname
      exact hk.placed_unsubscribe d hcur
    | cursorInfo id' =>
      rw [call_of_keeps k d _ fun _ => rfl, Call.after_of_writes k.stream d _ rfl] at hcur ⊢
      exact hk.placed _ cur hcur
    | _ => simp [Call.cursor?] at hname
  · rw [stream_call, Call.find?_after k.stream d c hname] at hcur
    exact (hk.placed id cur hcur).call d c hname

theorem Sound.run {k : Client} (hk : k.Sound) (calls : List (Call × Disk)) : (k.run calls).Sound := by
  induction calls generalizing k with
  | nil => exact hk
  | cons cd rest ih =>
    obtain ⟨c, d⟩ := cd
    exact ih (hk.call d c)

/-- The events a cursor handed out are what a replay of its range returns. -/
theorem Placed.replay {k : Client} {id : CursorId} {cur : Cursor} (hp : k.Placed id cur)
    (hopen : k.stream.isClosed = false) (hlt : cur.fromOffset < cur.position) (d : Disk) :
    ChangeStream.replay cur.fromOffset (cur.position - 1) (k.stream, d) =
      .ok (k.delivered id) (k.stream, d) := by
  obtain ⟨-, hle, hdel⟩ := hp
  have hhi : cur.position - 1 + 1 = cur.fromOffset + (cur.position - cur.fromOffset) := by omega
  have hcut : min (cur.position - cur.fromOffset) (k.stream.events.log.nextOffset - cur.fromOffset) =
      cur.position - cur.fromOffset := by
    simp only [ChangeStream.nextOffset, EventStore.nextOffset] at hle
    omega
  have hnot : ¬ cur.position - 1 < cur.fromOffset := by omega
  have hin : ¬ k.stream.events.nextOffset ≤ cur.position - 1 := by
    simp only [ChangeStream.nextOffset] at hle
    omega
  have hlog : k.stream.events.log.closed = false := hopen
  rw [ChangeStream.replay_run, if_neg (by simp [hopen])]
  simp only [Replay.range, hnot, hin, if_false, EventStore.readRange, hlog, Bool.false_eq_true,
    hhi, EventLog.range_from, hcut, Except.mapError, hdel]

end Client

theorem ite_pure_apply {ε σ α : Type} (c : Prop) [Decidable c] (a b : α) (x : σ) :
    (if c then pure a else pure b : EStateM ε σ α) x = .ok (if c then a else b) x := by
  split <;> rfl

theorem Server.read_run (srv : Server) (d : Disk) (raw : String) (id : CursorId)
    (vs : List (String × Http.QueryValue)) (mayWait : Bool) (hid : Server.cursorOf raw = .ok id) :
    Server.read raw vs mayWait (srv, d) =
      match ChangeStream.readBatch id (((Http.intField? vs "max").map Int.toNat).getD srv.config.maxReadBatch)
          (srv.stream, d) with
      | .ok (es, pos) (st, d') =>
        .ok (if mayWait && es.isEmpty && decide (((Http.intField? vs "wait_ms").getD 0).toNat > 0) &&
              decide ((((Http.intField? vs "max").map Int.toNat).getD srv.config.maxReadBatch) > 0) then
            .waits (min ((Http.intField? vs "wait_ms").getD 0).toNat srv.config.longPollMaxMs)
              (Server.json 200 (.obj [("events", .arr (es.map Api.eventView)), ("position", .nat pos)]))
          else .now (Server.json 200 (.obj [("events", .arr (es.map Api.eventView)), ("position", .nat pos)])))
          ({ srv with stream := st }, d')
      | .error e (st, d') => .ok (.now (Server.failed (.stream e))) ({ srv with stream := st }, d') := by
  -- the count asked for, or the server's batch; the read itself does not depend on which
  cases hmax : Http.intField? vs "max" <;>
  · simp only [Server.read, hid, hmax, bind, EStateM.bind, Within.current, Server.onStream,
      Within.mapError, tryCatch, tryCatchThe, MonadExceptOf.tryCatch, EStateM.tryCatch, Within.focus,
      EStateM.adaptExcept, Option.map_none, Option.map_some, Option.getD_none, Option.getD_some]
    generalize ChangeStream.readBatch id _ (srv.stream, d) = r
    rcases r with ⟨⟨es, pos⟩, st, d'⟩ | ⟨e, st, d'⟩
    · simp only [ite_pure_apply]
    · rfl

/-- What the reader of a cursor gets, over the stream's calls and over HTTP. -/
theorem cursor_delivery :
    -- a read returns the stored events from the cursor's position, as many as the count, the
    -- batch and the log allow, and answers and stores the position past them
    (∀ (s : ChangeStream) (d : Disk) (id : CursorId) (max : Nat) (c : Cursor),
      s.isClosed = false → s.cursors.find? id = some c →
      ChangeStream.readBatch id max (s, d) =
        .ok ((s.events.log.events.drop c.position).take (s.batchSize max c.position),
            c.position + s.batchSize max c.position)
          ({ s with
              cursors := s.cursors.put id { c with position := c.position + s.batchSize max c.position } },
            d)) ∧
    -- after any calls from a stream with no cursors, every open cursor stands between its
    -- opening offset and the end of the log, and what it handed out is the log in between,
    -- which a replay of that range returns
    (∀ (s : ChangeStream) (calls : List (Call × Disk)), s.cursors.cursors = [] →
      let k := Client.run ⟨s, fun _ => []⟩ calls
      k.stream.cursors.ids.Nodup ∧
      ∀ id c, k.stream.cursors.find? id = some c →
        c.fromOffset ≤ c.position ∧ c.position ≤ k.stream.nextOffset ∧
        k.delivered id = (k.stream.events.log.events.drop c.fromOffset).take (c.position - c.fromOffset) ∧
        (k.stream.isClosed = false → c.fromOffset < c.position → ∀ d,
          ChangeStream.replay c.fromOffset (c.position - 1) (k.stream, d) =
            .ok (k.delivered id) (k.stream, d))) ∧
    -- a call that names another cursor, or none, leaves a cursor as it was
    (∀ (s : ChangeStream) (d : Disk) (call : Call) (id : CursorId), call.cursor? ≠ some id →
      (call.after s d).cursors.find? id = s.cursors.find? id) ∧
    -- a read over HTTP answers the batch and position of its read, and leaves the stream as
    -- the read does; it waits only on an empty batch, and no longer than the server allows
    (∀ (srv : Server) (d : Disk) (raw : String) (id : CursorId)
      (vs : List (String × Http.QueryValue)) (mayWait : Bool), Server.cursorOf raw = .ok id →
      ∀ es pos st d', ChangeStream.readBatch id
          (((Http.intField? vs "max").map Int.toNat).getD srv.config.maxReadBatch) (srv.stream, d) =
          .ok (es, pos) (st, d') →
        let r := Server.json 200 (.obj [("events", .arr (es.map Api.eventView)), ("position", .nat pos)])
        ∃ reply, Server.read raw vs mayWait (srv, d) = .ok reply ({ srv with stream := st }, d') ∧
          (reply = .now r ∨ ∃ ms, ms ≤ srv.config.longPollMaxMs ∧ es = [] ∧ reply = .waits ms r)) := by
  refine ⟨?_, ?_, ?_, ?_⟩
  · intro s d id max c hopen hc
    rw [ChangeStream.readBatch_run, if_neg (by simp [hopen]), hc]
  · intro s calls hempty
    have hk := (Client.sound_of_empty ⟨s, fun _ => []⟩ hempty).run calls
    refine ⟨hk.nodup, fun id c hc => ?_⟩
    obtain ⟨hf, hle, hdel⟩ := hk.placed id c hc
    exact ⟨hf, hle, hdel, fun hopen hlt d => (hk.placed id c hc).replay hopen hlt d⟩
  · intro s d call id h
    exact Call.find?_after s d call h
  · intro srv d raw id vs mayWait hid es pos st d' hread
    rw [Server.read_run srv d raw id vs mayWait hid, hread]
    refine ⟨_, rfl, ?_⟩
    split
    · rename_i hwait
      simp only [Bool.and_eq_true, List.isEmpty_iff, decide_eq_true_eq] at hwait
      exact Or.inr ⟨_, Nat.min_le_right _ _, hwait.1.1.2, rfl⟩
    · exact Or.inl rfl

/-- A log of one event with a cursor at its start, read with a count of five; and an empty
stream in memory that takes an append, a subscription at the start and a read. -/
theorem cursor_delivery_one_event :
    let id := CursorId.nth 0 0
    let e : ChangeEvent := NewEvent.stamp ⟨"created", [], [1], "db"⟩ 0 Instant.epoch
    let s : ChangeStream := ⟨⟨⟨[e], false⟩, none⟩, ⟨{}, {}⟩, ⟨[(id, ⟨none, 0, 0⟩)]⟩, {}⟩
    let calls : List (Call × Disk) :=
      [(.append ⟨"created", [], [1], "db"⟩ Instant.epoch, {}), (.subscribe id 0 none, {}), (.readBatch id 5, {})]
    ((s.isClosed = false ∧ s.cursors.find? id = some ⟨none, 0, 0⟩) ∧
      ChangeStream.readBatch id 5 (s, {}) =
        .ok ((s.events.log.events.drop 0).take (s.batchSize 5 0), 0 + s.batchSize 5 0)
          ({ s with cursors := s.cursors.put id { (⟨none, 0, 0⟩ : Cursor) with position := 0 + s.batchSize 5 0 } },
            {})) ∧
    ((ChangeStream.inMemory {}).cursors.cursors = [] ∧
      let k := Client.run ⟨ChangeStream.inMemory {}, fun _ => []⟩ calls
      k.stream.cursors.ids.Nodup ∧
      ∀ id c, k.stream.cursors.find? id = some c →
        c.fromOffset ≤ c.position ∧ c.position ≤ k.stream.nextOffset ∧
        k.delivered id = (k.stream.events.log.events.drop c.fromOffset).take (c.position - c.fromOffset) ∧
        (k.stream.isClosed = false → c.fromOffset < c.position → ∀ d,
          ChangeStream.replay c.fromOffset (c.position - 1) (k.stream, d) =
            .ok (k.delivered id) (k.stream, d))) := by
  intro id e s calls
  have hopen : s.isClosed = false := rfl
  have hfind : s.cursors.find? id = some ⟨none, 0, 0⟩ := by simp [s, CursorRegistry.find?]
  exact ⟨⟨⟨hopen, hfind⟩, cursor_delivery.1 s {} id 5 ⟨none, 0, 0⟩ hopen hfind⟩,
    ⟨rfl, cursor_delivery.2.1 (ChangeStream.inMemory {}) calls rfl⟩⟩

end ChangeLog
