import Mathlib
import ChangeLog.Proofs.Cli.Invocation
import ChangeLog.Proofs.Progress.Replay
/-
  Sessions of the command line on one data directory: invocations run one after another, each
  a process of its own (`runSteps invoke`), each seeing only the disk the one before left.

  The sessions here are made of appends and of consumes that acknowledge what they print
  (`AppendsOrConsumes`), with no acknowledgment by hand and no crash: the disk has room and
  every append's record fits a frame of the events journal. Their invariant (`Served`) is that
  the directory hosts a log and progress (`ChangeStream.Hosts`) such that what has been shown
  to each consumer, in order, is the log up to where the consumer resumes. One run keeps it
  (`Served.step`, from the lemmas of `Invocation`), so a whole session does
  (`Served.session`).

  Main statement: `consume_acknowledged_exactly_once`. Each consume by a consumer's name
  prints the events from where the consumer resumes, as many as asked, as one read gives and
  as the log holds (`ConsumeRun`); the events shown to each consumer over the session, in
  order, are the log's first events up to where it resumes, carrying the offsets 0, 1, 2, …
  with none missing or repeated.
-/

namespace ChangeLog.Cli

open ChangeStream

/-- The name of the consumer a command reads for, when it is a consume. -/
def Command.consumer? : Command → Option String
  | .consume name _ _ => some name
  | _ => none

/-- The invocations of a session of appends and of consumes that acknowledge what they print,
on one data directory: an append's texts, with the time it stamps written out, fit one record
of the events journal. -/
def AppendsOrConsumes (dir : String) (call : Context × Invocation) : Prop :=
  call.2.dataDir = dir ∧
    ((∃ ty b a src hex sync, call.2.command = .append ty b a src hex sync ∧
      80 + ty.utf8ByteSize + b.utf8ByteSize + a.utf8ByteSize + src.utf8ByteSize +
        (Rfc3339.format .letter call.1.now).utf8ByteSize < 4294967296) ∨
    ∃ name k, call.2.command = .consume name k true)

/-- A run of consume by a consumer's name that acknowledges, against the stream its data
directory opened to: it shows the events from where the consumer resumes on, as many as
asked, as one read gives and as the log holds, and prints them followed by its tail. -/
structure ConsumeRun (s : ChangeStream) (f : Format) (c : ConsumerId) (k : Nat)
    (es : List ChangeEvent) (out : List String) : Prop where
  count : es.length = min k (min 100 (s.nextOffset - s.acks.resumeOffset c))
  events : es = (s.events.log.events.drop (s.acks.resumeOffset c)).take es.length
  prints : out = eventOutput f es ++ consumeTail f c es

/-- The events a session's runs showed a consumer, in order: those its consumes showed. -/
def shownTo (c : ConsumerId) : List (Context × Invocation) → List (List ChangeEvent) →
    List ChangeEvent
  | call :: calls, es :: shown =>
    (if call.2.command.consumer? = some c.raw then es else []) ++ shownTo c calls shown
  | _, _ => []

/-- A data directory serves a session so far when it hosts a log of no more events than the
session made runs, and what was shown to each consumer, in order, is the log up to where the
consumer resumes. -/
def Served (dir : String) (d : Disk) (runs : Nat) (got : ConsumerId → List ChangeEvent) : Prop :=
  ∃ evs acked, Hosts dir {} d evs acked ∧ evs.length ≤ runs ∧
    ∀ c, got c = evs.take (acked.resumeOffset c)

/-- Events that a log extends keep their first events. -/
theorem take_of_prefix {evs evs' : List ChangeEvent} (h : evs <+: evs') {r : Nat}
    (hr : r ≤ evs.length) : evs'.take r = evs.take r := by
  rw [List.prefix_iff_eq_take.1 h, List.take_take, Nat.min_eq_left hr]

/-- A batch read from where a consumer resumes, shown to it as it moves past the batch,
continues what it was shown; every other consumer is shown nothing and stays where it was. -/
theorem take_resumeOffset_batch {evs : List ChangeEvent} {acked acked' : ProgressMap}
    {c : ConsumerId} {n : Nat}
    (hres : acked'.resumeOffset c =
      acked.resumeOffset c + ((evs.drop (acked.resumeOffset c)).take n).length)
    (hother : ∀ c', c' ≠ c → acked'.resumeOffset c' = acked.resumeOffset c') (c' : ConsumerId) :
    evs.take (acked.resumeOffset c') ++
        (if c.raw = c'.raw then (evs.drop (acked.resumeOffset c)).take n else []) =
      evs.take (acked'.resumeOffset c') := by
  by_cases hc : c' = c
  · subst hc
    rw [if_pos rfl, hres, List.take_add]
    congr 1
    exact List.take_eq_take_iff.2 (by simp)
  · have hraw : c.raw ≠ c'.raw := fun e => hc (ConsumerId.eq_of_raw e.symm)
    rw [if_neg hraw, List.append_nil, hother c' hc]

/-- The batch a consume by a consumer's name shows from a directory that hosts a stream is a
run of consume against the stream the directory opens to. -/
theorem Hosts.consumeRun {dir : String} {d : Disk} {evs : List ChangeEvent}
    {acked : ProgressMap} (hh : Hosts dir {} d evs acked) (f : Format) (c : ConsumerId) (k : Nat) :
    let es := (evs.drop (acked.resumeOffset c)).take
      (min k (min 100 (evs.length - acked.resumeOffset c)))
    ∃ s d', openDir dir .osDefault {} d = .ok s d' ∧
      ConsumeRun s f c k es (eventOutput f es ++ consumeTail f c es) := by
  intro es
  obtain ⟨s, d', ie, ip, recs, hopen, hk, hev, hack, -⟩ := hh .osDefault
  have hresume : s.acks.resumeOffset c = acked.resumeOffset c := by
    rw [AckTracker.resumeOffset_eq, hack]
  have hnext : s.nextOffset = evs.length := by rw [← hev]; rfl
  have hlen : es.length = min k (min 100 (evs.length - acked.resumeOffset c)) := by
    simp only [es, List.length_take, List.length_drop]
    omega
  refine ⟨s, d', hopen, ⟨?_, ?_, rfl⟩⟩
  · rw [hlen, hresume, hnext]
  · rw [hresume, hev, hlen]

section Runs

variable {dir : String} {d : Disk} {i : Nat} {got : ConsumerId → List ChangeEvent}

/-- One run of a session keeps the directory serving it: an append adds at most one event and
shows nothing, a consume by a consumer's name shows that consumer the batch after what it was
shown, and a consume by a name that names no consumer shows nothing. -/
theorem Served.step (hs : Served dir d i got) (hi : i + 1 < 2 ^ 64)
    {call : Context × Invocation} (hcall : AppendsOrConsumes dir call) :
    ∃ es, Served dir (stateOf (invoke call d)) (i + 1)
        (fun c => got c ++ if call.2.command.consumer? = some c.raw then es else []) ∧
      ∀ (c : ConsumerId) k, call.2.command = .consume c.raw k true →
        ∃ s d' out, openDir dir .osDefault {} d = .ok s d' ∧ outcome (invoke call d) = .ok out ∧
          ConsumeRun s call.2.format c k es out := by
  obtain ⟨evs, acked, hh, hlen, hgot⟩ := hs
  obtain ⟨hdir, ⟨ty, b, a, src, hex, sync, hcmd, hfit⟩ | ⟨name, k, hcmd⟩⟩ := hcall
  · -- an append shows nothing and keeps every consumer's events
    obtain ⟨evs', hh', hpre, hlen'⟩ :=
      appendEvent_hosts hh (by omega) call.1 call.2 hdir ty b a src hex sync hfit
    refine ⟨[], ⟨evs', acked, ?_, by omega, fun c => ?_⟩, fun c k h => by rw [hcmd] at h; cases h⟩
    · rw [stateOf_invoke]
      simpa only [execute, hcmd] using hh'
    · beta_reduce
      rw [hgot, take_of_prefix hpre (hh.resumeOffset_le c), ite_self, List.append_nil]
  by_cases hnamed : ∃ c : ConsumerId, c.raw = name
  · -- a consumer's name: the consumer is shown the batch right after what it was shown
    obtain ⟨c, rfl⟩ := hnamed
    obtain ⟨d', acked', hrun, hh', hres, hother⟩ :=
      consume_hosts hh (by omega) call.1 call.2 hdir c k
    have hexec : execute call.1 call.2 = consume call.1 call.2 c.raw k true := by
      simp only [execute, hcmd]
    refine ⟨(evs.drop (acked.resumeOffset c)).take
        (min k (min 100 (evs.length - acked.resumeOffset c))),
      ⟨evs, acked', ?_, by omega, fun c' => ?_⟩, fun c₂ k₂ h => ?_⟩
    · rw [stateOf_invoke, hexec, hrun]
      exact hh'
    · simp only [hgot, Command.consumer?, hcmd, Option.some.injEq]
      exact take_resumeOffset_batch hres hother c'
    · rw [hcmd, Command.consume.injEq] at h
      obtain ⟨hc₂, rfl, -⟩ := h
      obtain rfl : c₂ = c := ConsumerId.eq_of_raw hc₂.symm
      obtain ⟨s, d₁, hopen, hconsume⟩ := Hosts.consumeRun hh call.2.format c₂ k
      exact ⟨s, d₁, _, hopen, by rw [invoke_ok (hexec ▸ hrun)]; rfl, hconsume⟩
  · -- a name that names no consumer fails and shows nothing
    have hname : ∀ c : ConsumerId, c.raw ≠ name := fun c h => hnamed ⟨c, h⟩
    obtain ⟨f, d', hrun, hh'⟩ := consume_unnamed hh (by omega) call.1 call.2 hdir hname k true
    have hexec : execute call.1 call.2 = consume call.1 call.2 name k true := by
      simp only [execute, hcmd]
    refine ⟨[], ⟨evs, acked, ?_, by omega, fun c => ?_⟩, fun c k' h => ?_⟩
    · rw [stateOf_invoke, hexec, hrun]
      exact hh'
    · simp [hgot]
    · rw [hcmd, Command.consume.injEq] at h
      exact absurd h.1.symm (hname c)

/-- A whole session keeps the directory serving it: the runs show events that continue what
each consumer was shown, and each consume by a consumer's name is described against the
directory as the runs before it left it. -/
theorem Served.session (calls : List (Context × Invocation)) :
    ∀ (d : Disk) (i : Nat) (got : ConsumerId → List ChangeEvent), Served dir d i got →
      (∀ call ∈ calls, AppendsOrConsumes dir call) → i + calls.length < 2 ^ 64 →
      ∃ shown : List (List ChangeEvent), shown.length = calls.length ∧
        (∀ j (hj : j < calls.length) (c : ConsumerId) k,
          calls[j].2.command = .consume c.raw k true →
          ∃ s d' es out,
            openDir dir .osDefault {} (runSteps invoke (calls.take j) d).2 = .ok s d' ∧
            shown[j]? = some es ∧ (runSteps invoke calls d).1[j]? = some (.ok out) ∧
            ConsumeRun s calls[j].2.format c k es out) ∧
        Served dir (runSteps invoke calls d).2 (i + calls.length)
          (fun c => got c ++ shownTo c calls shown) := by
  induction calls with
  | nil =>
    intro d i got hs _ _
    refine ⟨[], rfl, fun j hj => absurd hj (Nat.not_lt_zero j), ?_⟩
    simpa [runSteps, shownTo] using hs
  | cons call rest ih =>
    intro d i got hs hcalls hlen
    have hlen' : i + 1 + rest.length < 2 ^ 64 := by simp only [List.length_cons] at hlen; omega
    -- the first run, then the rest of the session from the disk it leaves
    obtain ⟨es, hs₁, hfirst⟩ := hs.step (by omega) (hcalls call List.mem_cons_self)
    obtain ⟨shown, hshown, hruns, hend⟩ :=
      ih _ _ _ hs₁ (fun c hc => hcalls c (List.mem_cons_of_mem _ hc)) hlen'
    refine ⟨es :: shown, by simp [hshown], ?_, ?_⟩
    · intro j hj c k hcmd
      cases j with
      | zero =>
        obtain ⟨s, d', out, hopen, hout, hrun⟩ := hfirst c k hcmd
        exact ⟨s, d', es, out, hopen, rfl, by simp [runSteps, hout], hrun⟩
      | succ j =>
        obtain ⟨s, d', es', out, hopen, hes, hout, hrun⟩ :=
          hruns j (by simpa using hj) c k hcmd
        exact ⟨s, d', es', out, by simpa [runSteps] using hopen, by simpa using hes,
          by simpa [runSteps] using hout, hrun⟩
    · have hcount : i + (call :: rest).length = i + 1 + rest.length := by
        simp only [List.length_cons]; omega
      rw [hcount]
      simpa [runSteps, shownTo, List.append_assoc] using hend

/-- A session of appends and of consumes that acknowledge what they print, on a data directory
that holds no journals yet, on a disk with room: each consume by a consumer's name prints the
events from where the consumer resumes, as many as asked, as one read gives (100) and as the
log holds, then acknowledges the last of them; and the events shown to each consumer, in order,
are the log's first events, up to where the consumer resumes, carrying the offsets 0, 1, 2, …
with none missing or repeated. -/
theorem consume_acknowledged_exactly_once {d₀ : Disk} (hfree : d₀.limited = false)
    (hdirs : d₀.DirsAt dir) (hE : d₀.lookup (Disk.join dir eventsFile) = none)
    (hP : d₀.lookup (Disk.join dir progressFile) = none)
    (calls : List (Context × Invocation)) (hcalls : ∀ call ∈ calls, AppendsOrConsumes dir call)
    (hlen : calls.length < 2 ^ 64) :
    ∃ shown : List (List ChangeEvent),
      (∀ i (hi : i < calls.length) (c : ConsumerId) (k : Nat),
        calls[i].2.command = .consume c.raw k true →
        ∃ s d' es out,
          ChangeStream.openDir dir .osDefault {} (runSteps invoke (calls.take i) d₀).2 = .ok s d' ∧
          shown[i]? = some es ∧ (runSteps invoke calls d₀).1[i]? = some (.ok out) ∧
          ConsumeRun s calls[i].2.format c k es out) ∧
      ∀ c : ConsumerId, ∃ s d',
        ChangeStream.openDir dir .osDefault {} (runSteps invoke calls d₀).2 = .ok s d' ∧
        shownTo c calls shown = s.events.log.events.take (s.acks.resumeOffset c) ∧
        (shownTo c calls shown).map (·.offset) = List.range (shownTo c calls shown).length := by
  have hs₀ : Served dir d₀ 0 (fun _ => []) :=
    ⟨[], {}, Hosts.fresh hfree hdirs hE hP {}, le_refl _, fun c => by simp⟩
  obtain ⟨shown, -, hruns, evs, acked, hh, -, hgot⟩ :=
    Served.session calls d₀ 0 _ hs₀ hcalls (by omega)
  refine ⟨shown, hruns, fun c => ?_⟩
  obtain ⟨s, d', ie, ip, recs, hopen, hk, hev, hack, -⟩ := hh .osDefault
  have hshown : shownTo c calls shown = s.events.log.events.take (s.acks.resumeOffset c) := by
    have := hgot c
    simp only [List.nil_append] at this
    rw [this, AckTracker.resumeOffset_eq, hev, hack]
  refine ⟨s, d', hopen, hshown, ?_⟩
  -- the events shown are the log's from offset 0 on, each at its place
  have hle : s.acks.resumeOffset c ≤ s.nextOffset := by
    rw [AckTracker.resumeOffset_eq, hack, show s.nextOffset = evs.length by rw [← hev]; rfl]
    exact hh.resumeOffset_le c
  have hplaced : s.events.log.Placed := hk.placed
  have hfrom : 0 + s.acks.resumeOffset c ≤ s.events.log.nextOffset := by
    rw [Nat.zero_add]
    exact hle
  rw [hshown, List.length_take_of_le hle, List.range_eq_range', ← hplaced.map_offset hfrom,
    List.drop_zero]

end Runs

/-- On "data", the one directory of a disk: two appends, then "indexer" consumes one event,
then five, then five again. -/
theorem consume_acknowledged_on_data_directory :
    let d₀ : Disk := { entries := [("data", .dir)] }
    let ctx : Context := ⟨Instant.epoch, CursorId.nth 0 0⟩
    let calls : List (Context × Invocation) :=
      [(ctx, ⟨"data", false, .text, .append "row.insert" "a" "b" "orders" false none⟩),
        (ctx, ⟨"data", false, .json, .append "row.update" "b" "c" "orders" false none⟩),
        (ctx, ⟨"data", false, .text, .consume "indexer" 1 true⟩),
        (ctx, ⟨"data", false, .json, .consume "indexer" 5 true⟩),
        (ctx, ⟨"data", false, .text, .consume "indexer" 5 true⟩)]
    (∀ call ∈ calls, AppendsOrConsumes "data" call) ∧
    ∃ shown : List (List ChangeEvent),
      (∀ i (hi : i < calls.length) (c : ConsumerId) (k : Nat),
        calls[i].2.command = .consume c.raw k true →
        ∃ s d' es out,
          ChangeStream.openDir "data" .osDefault {} (runSteps invoke (calls.take i) d₀).2 =
            .ok s d' ∧
          shown[i]? = some es ∧ (runSteps invoke calls d₀).1[i]? = some (.ok out) ∧
          ConsumeRun s calls[i].2.format c k es out) ∧
      ∀ c : ConsumerId, ∃ s d',
        ChangeStream.openDir "data" .osDefault {} (runSteps invoke calls d₀).2 = .ok s d' ∧
        shownTo c calls shown = s.events.log.events.take (s.acks.resumeOffset c) ∧
        (shownTo c calls shown).map (·.offset) = List.range (shownTo c calls shown).length := by
  intro d₀ ctx calls
  have hcalls : ∀ call ∈ calls, AppendsOrConsumes "data" call := by
    intro call hcall
    simp only [calls, List.mem_cons, List.not_mem_nil, or_false] at hcall
    rcases hcall with rfl | rfl | rfl | rfl | rfl
    · exact ⟨rfl, .inl ⟨_, _, _, _, _, _, rfl, by decide⟩⟩
    · exact ⟨rfl, .inl ⟨_, _, _, _, _, _, rfl, by decide⟩⟩
    all_goals exact ⟨rfl, .inr ⟨_, _, rfl⟩⟩
  exact ⟨hcalls, consume_acknowledged_exactly_once rfl dataDir_dirsAt dataDir_events
    dataDir_progress calls hcalls (by decide)⟩

end ChangeLog.Cli
