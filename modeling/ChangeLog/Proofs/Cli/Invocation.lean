import Mathlib
import ChangeLog.Cli.Commands
import ChangeLog.Proofs.Stream.Hosted
/-
  One invocation of the command line on a data directory. Each invocation is a process of its
  own (`invoke`): it starts with nothing printed, opens the directory's stream again, and what
  it leaves on the disk is all the next one sees. A command line that reads as an invocation
  runs it so (`runTool_of_read`).

  What a command prints is read off the run lemmas of its parts: `say` adds a line,
  `printEvents` the lines of its events (`eventOutput`), and a stream operation run through
  `onStream` changes the disk as the operation does and prints nothing. A name names a consumer
  or fails (`consumerOf_cases`), and an image given on the command line has at most as many
  bytes as its text (`payload_cases`).

  On a directory that hosts a stream (`ChangeStream.Hosts`), a consume by a consumer's name
  that acknowledges prints the batch from the consumer's resume offset on, acknowledges its
  last event and leaves the directory hosting the same log, the consumer resuming right after
  the batch (`consume_hosts`); a consume by a name that names no consumer fails and changes
  nothing the directory hosts (`consume_unnamed`); an append leaves the directory hosting the
  log it held, or that log and one more event (`appendEvent_hosts`), when the record it writes
  fits a frame.
-/

namespace ChangeLog

theorem ConsumerId.parse_raw_self (c : ConsumerId) : ConsumerId.parse c.raw = .ok c := by
  unfold ConsumerId.parse
  split
  · rfl
  · rename_i p hp
    rw [c.valid] at hp
    cases hp

/-- Hexadecimal digits read as at most as many bytes as there are digits. -/
theorem Hex.decodePairs_length : ∀ (bs : Bytes) (i : Nat) {out : Bytes},
    Hex.decodePairs bs i = .ok out → out.length ≤ bs.length
  | hi :: lo :: rest, i, out, h => by
    simp only [Hex.decodePairs] at h
    rcases hh : Hex.value? hi with _ | vh <;> rcases hl : Hex.value? lo with _ | vl <;>
      simp only [hh, hl] at h
    · cases h
    · cases h
    · cases h
    rcases hr : Hex.decodePairs rest (i + 2) with e | tail <;>
      simp only [hr, bind, Except.bind, pure, Except.pure] at h
    · cases h
    · cases h
      have := Hex.decodePairs_length rest (i + 2) hr
      simp only [List.length_cons]
      omega
  | [], _, out, h => by
    cases h
    exact Nat.le_refl _
  | [_], _, out, h => by
    cases h
    exact Nat.zero_le _

namespace Cli

open ChangeStream

/-! ## What commands print -/

/-- The lines that show events: each event's lines in text, or one JSON array. -/
def eventOutput : Format → List ChangeEvent → List String
  | .text, es => es.flatMap eventLines
  | .json, es => [(Json.Value.arr (es.map Api.eventView)).pretty]

/-- What a consume that acknowledges prints after its events: in text, the acknowledgment of
the last one shown, or that the consumer is caught up. -/
def consumeTail (f : Format) (c : ConsumerId) (es : List ChangeEvent) : List String :=
  match f, es.getLast? with
  | .text, some last => [ackLine c last.offset]
  | .text, none => [c.raw ++ " is caught up."]
  | .json, _ => []

/-- An invocation run as a process of its own on a disk: it starts with nothing printed, and
gives the lines it printed, with its failure when it fails. -/
def invoke (call : Context × Invocation) : EStateM (Failure × List String) Disk (List String) :=
  fun d =>
    match (execute call.1 call.2).run ([], d) with
    | .ok () (out, d') => .ok out d'
    | .error f (out, d') => .error (f, out) d'

/-- A command line that reads as an invocation prints what the invocation prints, exits with 0
when it succeeds and with 1 and its failure when it fails. -/
theorem runTool_of_read {words : List String} {inv : Invocation} (h : read words = .ok inv)
    (ctx : Context) (d : Disk) :
    runTool ctx words d =
      match invoke (ctx, inv) d with
      | .ok out d' => (⟨0, printed out, ""⟩, d')
      | .error (f, out) d' => (⟨1, printed out, f.render ++ "\n"⟩, d') := by
  simp only [runTool, h, invoke]
  rcases (execute ctx inv).run ([], d) with ⟨⟨⟩, out, d'⟩ | ⟨f, out, d'⟩ <;> rfl

theorem stateOf_invoke (call : Context × Invocation) (d : Disk) :
    stateOf (invoke call d) = (stateOf (execute call.1 call.2 ([], d))).2 := by
  simp only [invoke, EStateM.run]
  rcases execute call.1 call.2 ([], d) with ⟨⟨⟩, out, d'⟩ | ⟨f, out, d'⟩ <;> rfl

/-! ## Run lemmas of the parts of a command -/

section Parts

variable {α β : Type} {out : List String} {d d' : Disk}

theorem bind_ok {x : Run α} {f : α → Run β} {p p' : List String × Disk} {a : α}
    (h : x p = .ok a p') : (x >>= f) p = f a p' := by
  simp only [bind, EStateM.bind, h]

theorem bind_error {x : Run α} {f : α → Run β} {p p' : List String × Disk} {e : Failure}
    (h : x p = .error e p') : (x >>= f) p = .error e p' := by
  simp only [bind, EStateM.bind, h]

theorem say_run (line : String) : say line (out, d) = .ok () (out ++ [line], d) := rfl

theorem forM_say (lines : List String) :
    ∀ out : List String, lines.forM say (out, d) = .ok () (out ++ lines, d) := by
  induction lines with
  | nil => intro out; simp [pure, EStateM.pure]
  | cons line rest ih =>
    intro out
    simp only [List.forM]
    rw [bind_ok (say_run line), ih]
    simp

theorem printEvents_run (f : Format) (es : List ChangeEvent) :
    printEvents f es (out, d) = .ok () (out ++ eventOutput f es, d) := by
  cases f with
  | text => exact forM_say _ out
  | json => rfl

theorem onStream_ok {s s' : ChangeStream} {m : Within ChangeStream StreamError α} {a : α}
    (h : m (s, d) = .ok a (s', d')) : onStream s m (out, d) = .ok (a, s') (out, d') := by
  simp only [onStream, Within.run', h]

theorem onStream_error {s s' : ChangeStream} {m : Within ChangeStream StreamError α}
    {e : StreamError} (h : m (s, d) = .error e (s', d')) :
    onStream s m (out, d) = .error (Failure.ofStream e) (out, d') := by
  simp only [onStream, Within.run', h]

/-- Closing the stream as a command's last step prints nothing. -/
theorem onStream_close {s s' : ChangeStream} (h : ChangeStream.close (s, d) = .ok () (s', d')) :
    (onStream s ChangeStream.close >>= fun _ => (pure () : Run Unit)) (out, d) = .ok () (out, d') := by
  rw [bind_ok (onStream_ok h)]
  rfl

theorem openStream_ok {dir : String} {mode : SyncMode} {s : ChangeStream}
    (h : ChangeStream.openDir dir mode {} d = .ok s d') :
    openStream dir mode (out, d) = .ok s (out, d') := by
  have hrun : (ChangeStream.openDir dir mode {}).run d = .ok s d' := h
  -- the equation lemma of `openStream` takes seconds to build: open it by its definition
  delta openStream
  dsimp only
  rw [hrun]

/-- A consumer's own name names it. -/
theorem consumerOf_raw (c : ConsumerId) (p : List String × Disk) : consumerOf c.raw p = .ok c p := by
  simp only [consumerOf, ConsumerId.ofText, ConsumerId.parse_raw_self, Except.mapError, expect]
  rfl

/-- A name either names a consumer or fails, changing nothing. -/
theorem consumerOf_cases (name : String) (p : List String × Disk) :
    (∃ c : ConsumerId, c.raw = name ∧ consumerOf name p = .ok c p) ∨
      ∃ f, consumerOf name p = .error f p := by
  rcases h : ConsumerId.parse name with e | c
  · right
    simp only [consumerOf, ConsumerId.ofText, h, Except.mapError, expect]
    exact ⟨_, rfl⟩
  · left
    refine ⟨c, ConsumerId.parse_raw h, ?_⟩
    rw [← ConsumerId.parse_raw h]
    exact consumerOf_raw c p

/-- An image given on the command line is read with at most as many bytes as its text, or
refused, changing nothing. -/
theorem payload_cases (text : String) (hex : Bool) (p : List String × Disk) :
    (∃ bs : Bytes, bs.length ≤ text.utf8ByteSize ∧ payload text hex p = .ok bs p) ∨
      ∃ f, payload text hex p = .error f p := by
  cases hex with
  | false => exact .inl ⟨_, (Binary.length_toUTF8_toList text).le, rfl⟩
  | true =>
    rcases hd : Hex.decode text with e | bs
    · right
      simp only [payload, hd, if_true, Except.mapError, expect]
      exact ⟨_, rfl⟩
    · left
      refine ⟨bs, ?_, by simp only [payload, hd, if_true, Except.mapError, expect]; rfl⟩
      simp only [Hex.decode, Hex.decodeBytes] at hd
      split_ifs at hd
      rw [← Binary.length_toUTF8_toList]
      exact Hex.decodePairs_length _ 0 hd

end Parts

/-- An invocation that succeeds gives what it printed. -/
theorem invoke_ok {call : Context × Invocation} {d d' : Disk} {out : List String}
    (h : execute call.1 call.2 ([], d) = .ok () (out, d')) : invoke call d = .ok out d' := by
  simp only [invoke, EStateM.run, h]

/-! ## Invocations on a directory that hosts a stream -/

section Invocations

variable {dir : String} {d : Disk} {evs : List ChangeEvent} {acked : ProgressMap}

/-- On a directory that hosts a stream, a consume by a consumer's name that acknowledges prints
the events from where the consumer resumes on, as many as asked, as one read gives and as the
log holds, then its tail; it leaves the directory hosting the same log, the consumer resuming
right after the events printed and every other consumer where it was. -/
theorem consume_hosts (hh : Hosts dir {} d evs acked) (hn : evs.length < 2 ^ 64)
    (ctx : Context) (inv : Invocation) (hdir : inv.dataDir = dir) (c : ConsumerId) (k : Nat) :
    let es := (evs.drop (acked.resumeOffset c)).take
      (min k (min 100 (evs.length - acked.resumeOffset c)))
    ∃ d' acked', consume ctx inv c.raw k true ([], d) =
        .ok () (eventOutput inv.format es ++ consumeTail inv.format c es, d') ∧
      Hosts dir {} d' evs acked' ∧ acked'.resumeOffset c = acked.resumeOffset c + es.length ∧
      ∀ c', c' ≠ c → acked'.resumeOffset c' = acked.resumeOffset c' := by
  intro es
  subst hdir
  obtain ⟨s, d₁, ie, ip, recs, hopen, hk, hev, hack, hcur, hcfg, hclosed⟩ := hh .osDefault
  have hlen : s.nextOffset = evs.length := by rw [← hev]; rfl
  have hresume : s.acks.resumeOffset c = acked.resumeOffset c := by
    rw [AckTracker.resumeOffset_eq, hack]
  have hrle : acked.resumeOffset c ≤ s.nextOffset := hlen ▸ hh.resumeOffset_le c
  obtain ⟨s₁, s₂, hsub, hread, hunsub⟩ :=
    read_own_cursor (d := d₁) hclosed hcur hrle ctx.cursor (some c.raw) k
  have hbatch : (s.events.log.events.drop (acked.resumeOffset c)).take
      (min (min k s.config.maxReadBatch) (s.nextOffset - acked.resumeOffset c)) = es := by
    rw [hev, hcfg, hlen, Nat.min_assoc]
  rw [hbatch] at hread
  have hres : ChangeStream.resumeOffset c (s, d₁) = .ok (acked.resumeOffset c) (s, d₁) := by
    rw [resumeOffset_run, hclosed, if_neg Bool.false_ne_true, hresume]
  simp only [consume, bind_ok (openStream_ok hopen), bind_ok (consumerOf_raw c _),
    bind_ok (onStream_ok hres), bind_ok (onStream_ok hsub), bind_ok (onStream_ok hread),
    bind_ok (onStream_ok hunsub), bind_ok (printEvents_run _ _), List.nil_append]
  have hn' : s.nextOffset < 2 ^ 64 := hlen ▸ hn
  rcases hlast : es.getLast? with _ | last
  · -- nothing to read: the consumer is caught up and nothing is acknowledged
    have hnil : es = [] := List.getLast?_eq_none_iff.1 hlast
    obtain ⟨s', hclose, hhosts⟩ := hk.close_hosts hn' {}
    rw [hev, hack] at hhosts
    refine ⟨d₁, acked, ?_, hhosts, by rw [hnil]; rfl, fun _ _ => rfl⟩
    cases hf : inv.format
    · simp only [hnil, List.isEmpty_nil, decide_true, Bool.and_self, if_true,
        bind_ok (say_run _), pure_bind, onStream_close hclose, consumeTail, List.getLast?_nil]
    · simp only [hnil, List.isEmpty_nil, reduceCtorEq, decide_false, Bool.and_false,
        Bool.false_eq_true, if_false, pure_bind, onStream_close hclose, consumeTail,
        List.append_nil]
  · -- the last event read lies past the consumer's progress, and its acknowledgment is taken
    have hlast' : ((s.events.log.events.drop (s.acks.resumeOffset c)).take
        (min k (min 100 (evs.length - acked.resumeOffset c)))).getLast? = some last := by
      rw [hresume, hev]
      exact hlast
    obtain ⟨t, d₂, recs', hacknow, hacked, hk₂, hoff⟩ := hk.acknowledge_last hclosed hlast'
    rw [hresume, hev] at hoff
    change last.offset + 1 = acked.resumeOffset c + es.length at hoff
    obtain ⟨s', hclose, hhosts⟩ := hk₂.close_hosts hn' {}
    have hev₂ : ({ s with acks := t } : ChangeStream).events.log.events = evs := hev
    rw [hev₂, hacked, hack] at hhosts
    refine ⟨d₂, acked.insert c last.offset, ?_, hhosts, by simp [hoff], fun c' hc' =>
      ProgressMap.resumeOffset_insert_of_ne _ _ hc'⟩
    cases hf : inv.format
    · simp only [bind_ok (onStream_ok hacknow), if_true, bind_ok (say_run _), pure_bind,
        onStream_close hclose, consumeTail, hlast]
    · simp only [bind_ok (onStream_ok hacknow), reduceCtorEq, if_false, pure_bind,
        onStream_close hclose, consumeTail, List.append_nil]

/-- A consume by a name that names no consumer fails once the directory is open, and the
directory hosts what it hosted. -/
theorem consume_unnamed (hh : Hosts dir {} d evs acked) (hn : evs.length < 2 ^ 64)
    (ctx : Context) (inv : Invocation) (hdir : inv.dataDir = dir) {name : String}
    (hname : ∀ c : ConsumerId, c.raw ≠ name) (k : Nat) (ack : Bool) :
    ∃ f d', consume ctx inv name k ack ([], d) = .error f ([], d') ∧ Hosts dir {} d' evs acked := by
  subst hdir
  obtain ⟨s, d₁, ie, ip, recs, hopen, hk, hev, hack, -⟩ := hh .osDefault
  have hlen : s.nextOffset = evs.length := by rw [← hev]; rfl
  have hhosts := hk.hosts (hlen ▸ hn) {}
  rw [hev, hack] at hhosts
  rcases consumerOf_cases name ([], d₁) with ⟨c, hc, -⟩ | ⟨f, hf⟩
  · exact absurd hc (hname c)
  refine ⟨f, d₁, ?_, hhosts⟩
  simp only [consume, bind_ok (openStream_ok hopen), bind_error hf]

/-- An append, taken or refused, leaves the directory hosting the log it held or that log and
one more event, and the same progress, when its texts with its time fit a record. -/
theorem appendEvent_hosts (hh : Hosts dir {} d evs acked) (hn : evs.length + 1 < 2 ^ 64)
    (ctx : Context) (inv : Invocation) (hdir : inv.dataDir = dir) (ty b a src : String)
    (hex : Bool) (sync : Option SyncMode)
    (hfit : 80 + ty.utf8ByteSize + b.utf8ByteSize + a.utf8ByteSize + src.utf8ByteSize +
      (Rfc3339.format .letter ctx.now).utf8ByteSize < 4294967296) :
    ∃ evs', Hosts dir {} (stateOf (appendEvent ctx inv ty b a src hex sync ([], d))).2 evs' acked ∧
      evs <+: evs' ∧ evs'.length ≤ evs.length + 1 := by
  subst hdir
  obtain ⟨s, d₁, ie, ip, recs, hopen, hk, hev, hack, -⟩ := hh (sync.getD .osDefault)
  have hlen : s.nextOffset = evs.length := by rw [← hev]; rfl
  -- a refused image leaves the directory as the opening left it
  have hstay : Hosts inv.dataDir {} d₁ evs acked := by
    have := hk.hosts (by omega) {}
    rwa [hev, hack] at this
  have hkeep : ∃ evs', Hosts inv.dataDir {} d₁ evs' acked ∧ evs <+: evs' ∧
      evs'.length ≤ evs.length + 1 := ⟨evs, hstay, List.prefix_refl _, by omega⟩
  simp only [appendEvent, bind_ok (openStream_ok hopen)]
  rcases payload_cases b hex ([], d₁) with ⟨bb, hbb, hb⟩ | ⟨f, hb⟩
  swap
  · simpa only [bind_error hb, stateOf_error] using hkeep
  rcases payload_cases a hex ([], d₁) with ⟨aa, haa, ha⟩ | ⟨f, ha⟩
  swap
  · simpa only [bind_ok hb, bind_error ha, stateOf_error] using hkeep
  simp only [bind_ok hb, bind_ok ha]
  have hfit' : (NewEvent.stamp ⟨ty, bb, aa, src⟩ s.nextOffset ctx.now).encode.length <
      4294967296 := by
    rw [NewEvent.encode_stamp_length]
    dsimp only
    omega
  obtain ⟨hkx, hacksx, hevx⟩ := hk.append_state ⟨ty, bb, aa, src⟩ ctx.now hfit'
  -- taken or refused, the stream is kept, holding the log or the log and the event
  rw [hev] at hevx
  have hgrow : ∀ evs' : List ChangeEvent, (evs' = evs ∨
      evs' = evs ++ [NewEvent.stamp ⟨ty, bb, aa, src⟩ s.nextOffset ctx.now]) →
      evs <+: evs' ∧ evs'.length ≤ evs.length + 1 := by
    rintro evs' (rfl | rfl)
    · exact ⟨List.prefix_refl _, by omega⟩
    · exact ⟨List.prefix_append _ _, by simp⟩
  rcases hx : ChangeStream.append ⟨ty, bb, aa, src⟩ ctx.now (s, d₁) with
      ⟨e, s', d₂⟩ | ⟨err, s', d₂⟩ <;>
    rw [hx] at hkx hacksx hevx <;> simp only [stateOf_ok, stateOf_error] at hkx hacksx hevx
  all_goals
    obtain ⟨hpre, hlen'⟩ := hgrow _ hevx
    have hn' : s'.nextOffset < 2 ^ 64 := Nat.lt_of_le_of_lt hlen' hn
  · -- taken: closing writes nothing, and what is printed leaves the disk
    obtain ⟨s'', hclose, hhosts⟩ := hkx.close_hosts hn' {}
    rw [hacksx, hack] at hhosts
    simp only [bind_ok (onStream_ok hx), bind_ok (onStream_ok hclose)]
    cases inv.format <;> exact ⟨_, hhosts, hpre, hlen'⟩
  · have hhosts := hkx.hosts hn' {}
    rw [hacksx, hack] at hhosts
    simpa only [bind_error (onStream_error hx), stateOf_error] using ⟨_, hhosts, hpre, hlen'⟩

end Invocations

end Cli

end ChangeLog
