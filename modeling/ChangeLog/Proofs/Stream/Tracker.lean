import ChangeLog.Proofs.Progress.Store
/-
  The tracker of acknowledgments and its store hold one progress between them. A tracker is
  built by recovery from a store, which rewinds in the store what it rewinds in the tracker,
  or new over a store that holds nothing (`Built`). From there on the tracker lists what its
  store lists (`Coherent`): an acknowledgment out of range and a stale one do not touch the
  store, one that raises the progress writes the store first and moves the tracker only once
  the write is done, and a write that fails leaves the store's map as it was.

  The offsets a caller has had taken are kept beside the tracker (`AckLedger`): after any
  sequence of acknowledgments, each consumer's progress is the largest of its recovered
  progress and the offsets taken from it.

  Main statement: `acknowledgments_keep_store_and_maximum`.
-/

namespace ChangeLog

theorem max?_append_singleton (l : List Nat) (a : Nat) :
    (l ++ [a]).max? = some ((l.max?).elim a (max · a)) := by
  induction l with
  | nil => simp
  | cons x xs ih =>
    rw [List.cons_append, List.max?_cons, ih, List.max?_cons]
    cases xs.max? <;> simp [Nat.max_assoc]

namespace ProgressMap

theorem get?_cons (c₀ c : ConsumerId) (o : Nat) (rest : List (ConsumerId × Nat)) :
    ProgressMap.get? ⟨(c₀, o) :: rest⟩ c =
      if c₀.raw = c.raw then some o else ProgressMap.get? ⟨rest⟩ c := by
  by_cases h : c₀.raw = c.raw <;> simp [get?, h]

/-- The rest of a list in order does not name its first consumer. -/
theorem get?_tail_of_pairwise {c₀ : ConsumerId} {o : Nat} {rest : List (ConsumerId × Nat)}
    (h : ((c₀, o) :: rest).Pairwise fun a b => a.1.raw < b.1.raw) {c : ConsumerId}
    (hc : c₀.raw = c.raw) : ProgressMap.get? ⟨rest⟩ c = none := by
  simp only [get?, Option.map_eq_none_iff, List.find?_eq_none, decide_eq_true_eq]
  intro e he hec
  have := (List.pairwise_cons.1 h).1 e he
  rw [hc, ← hec] at this
  exact lt_irrefl _ this

end ProgressMap

namespace AckTracker

/-- The tracker lists what its store lists, each consumer once and in order. -/
structure Coherent (t : AckTracker) : Prop where
  agrees : t.acked = t.store.map
  sorted : t.acked.Sorted

/-- How a program builds a tracker: by recovery from a store that lists each consumer once and
in order, as every store does, or new over a store that holds nothing. -/
inductive Built : AckTracker → Prop
  | recovered {s s' : ProgressStore} {n : Nat} {d d' : Disk} {m : ProgressMap} :
      s.map.Sorted → recover n (s, d) = .ok m (s', d') → Built ⟨s', m⟩
  | new {s : ProgressStore} : s.load = [] → Built ⟨s, {}⟩

/-- Recovery keeps the store answering what is still to be read, or else what the tracker has
taken: an entry below the next offset is taken as it is, one past it is rewound in both. -/
theorem recoverEntries_agrees (n : Nat) :
    ∀ (xs : List (ConsumerId × Nat)) (acc : ProgressMap) (s : ProgressStore) (d : Disk)
      (m : ProgressMap) (s' : ProgressStore) (d' : Disk),
      (xs.Pairwise fun a b => a.1.raw < b.1.raw) → acc.Sorted → s.map.Sorted →
      (∀ c, s.map.get? c = (ProgressMap.get? ⟨xs⟩ c).or (acc.get? c)) →
      (∀ e ∈ xs, acc.get? e.1 = none) →
      recoverEntries n xs acc (s, d) = .ok m (s', d') → m = s'.map ∧ m.Sorted := by
  intro xs
  induction xs with
  | nil =>
    intro acc s d m s' d' _ hacc hs hget _ h
    cases h
    refine ⟨ProgressMap.eq_of_get?_eq hacc hs fun c => ?_, hacc⟩
    rw [hget c]
    simp [ProgressMap.get?]
  | cons e rest ih =>
    obtain ⟨c₀, o⟩ := e
    intro acc s d m s' d' hxs hacc hs hget hfresh h
    have hrest := (List.pairwise_cons.1 hxs).2
    have hfresh' : ∀ e ∈ rest, e.1.raw ≠ c₀.raw := fun e he h =>
      lt_irrefl _ (h ▸ (List.pairwise_cons.1 hxs).1 e he)
    simp only [recoverEntries] at h
    split at h
    · -- below the next offset: the tracker takes the entry, the store keeps it
      refine ih _ s d m s' d' hrest (hacc.insert c₀ o) hs (fun c => ?_) (fun e he => ?_) h
      · rw [hget c, ProgressMap.get?_cons]
        by_cases hc : c₀.raw = c.raw
        · rw [if_pos hc, ProgressMap.get?_tail_of_pairwise hxs hc, ConsumerId.eq_of_raw hc.symm,
            ProgressMap.get?_insert]
          rfl
        · rw [if_neg hc, ProgressMap.get?_insert_of_ne _ _ _ _ hc]
      · rw [ProgressMap.get?_insert_of_ne _ _ _ _ (hfresh' e he).symm]
        exact hfresh e (List.mem_cons_of_mem _ he)
    · -- past it: the store is rewound first, then the tracker takes what the store holds
      simp only [bind, EStateM.bind, Within.mapError, EStateM.adaptExcept] at h
      rcases hw : ProgressStore.rewind c₀ (if n = 0 then none else some (n - 1)) (s, d) with
        ⟨u, s₁, d₁⟩ | ⟨err, s₁, d₁⟩ <;> simp only [hw, reduceCtorEq] at h
      have hs₁ := ProgressStore.rewind_ok hw
      refine ih _ s₁ d₁ m s' d' hrest ?_ (hs₁ ▸ hs.rewind c₀ _) (fun c => ?_) (fun e he => ?_) h
      · split
        · exact hacc.insert c₀ _
        · exact hacc
      · rw [hs₁]
        by_cases hc : c₀.raw = c.raw
        · obtain rfl := ConsumerId.eq_of_raw hc
          rw [hs.get?_rewind, ProgressMap.get?_tail_of_pairwise hxs rfl]
          -- the tracker had not taken this consumer before
          have hnone : acc.get? c₀ = none := hfresh (c₀, o) List.mem_cons_self
          split
          · exact hnone.symm
          · rw [ProgressMap.get?_insert]
            rfl
        · rw [ProgressMap.get?_rewind_of_ne _ _ hc, hget c, ProgressMap.get?_cons, if_neg hc]
          split
          · rw [ProgressMap.get?_insert_of_ne _ _ _ _ hc]
          · rfl
      · have hne := (hfresh' e he).symm
        split
        · rw [ProgressMap.get?_insert_of_ne _ _ _ _ hne]
          exact hfresh e (List.mem_cons_of_mem _ he)
        · exact hfresh e (List.mem_cons_of_mem _ he)

/-- A tracker built by recovery lists what its store lists afterwards. -/
theorem Coherent.recover {s s' : ProgressStore} {n : Nat} {d d' : Disk} {m : ProgressMap}
    (hs : s.map.Sorted) (h : recover n (s, d) = .ok m (s', d')) : Coherent ⟨s', m⟩ := by
  simp only [AckTracker.recover, bind, EStateM.bind, Within.current_apply] at h
  obtain ⟨hm, hsorted⟩ := recoverEntries_agrees n s.map.entries {} s d m s' d' hs
    ProgressMap.sorted_empty hs (fun c => by simp [ProgressMap.get?]) (fun e _ => by simp [ProgressMap.get?]) h
  exact ⟨hm, hsorted⟩

theorem Built.coherent {t : AckTracker} (h : t.Built) : t.Coherent := by
  cases h with
  | recovered hs hrec => exact Coherent.recover hs hrec
  | new hload =>
    rename_i s
    have : s.map = {} := by
      rcases s with ⟨⟨xs⟩, _, _⟩
      simp only [ProgressStore.load, ProgressMap.toList] at hload
      subst hload
      rfl
    exact ⟨this.symm, ProgressMap.sorted_empty⟩

/-- A tracker's writes through its store: the store's outcome, its failures named as the
stream's, on the tracker that holds it. -/
theorem onStore_run {α : Type} (m : Within ProgressStore StoreError α) (t : AckTracker) (d : Disk) :
    onStore m (t, d) =
      match m (t.store, d) with
      | .ok a (s, d') => .ok a ({ t with store := s }, d')
      | .error e (s, d') => .error (.ofStore e) ({ t with store := s }, d') := by
  simp only [onStore, Within.focus, Within.mapError, EStateM.adaptExcept]
  cases m (t.store, d) <;> rfl

/-- A raise writes the store, then takes the offset once the write is done. -/
theorem raise_run (t : AckTracker) (d : Disk) (c : ConsumerId) (o : Nat) :
    EStateM.bind (onStore (ProgressStore.record c o))
        (fun _ => EStateM.bind Within.current fun t =>
          EStateM.bind (Within.replace { t with acked := t.acked.insert c o }) fun _ => pure o)
        (t, d) =
      match ProgressStore.record c o (t.store, d) with
      | .ok _ (s', d') => .ok o (⟨s', t.acked.insert c o⟩, d')
      | .error e (s', d') => .error (.ofStore e) ({ t with store := s' }, d') := by
  simp only [EStateM.bind, onStore_run]
  rcases ProgressStore.record c o (t.store, d) with ⟨u, s', d'⟩ | ⟨e, s', d'⟩ <;> rfl

/-- An acknowledgment in range that raises the progress writes the store first, and takes the
offset only once the write is done. -/
theorem acknowledge_of_raises (t : AckTracker) (d : Disk) {c : ConsumerId} {o n : Nat}
    (hlt : o < n) (hr : ProgressStore.Raises t.acked c o) :
    acknowledge c o n (t, d) =
      match ProgressStore.record c o (t.store, d) with
      | .ok _ (s', d') => .ok o (⟨s', t.acked.insert c o⟩, d')
      | .error e (s', d') => .error (.ofStore e) ({ t with store := s' }, d') := by
  simp only [acknowledge, Nat.not_le.2 hlt, if_false, bind, EStateM.bind, Within.current_apply]
  -- a raise is the same write whether or not the consumer had progress
  cases hp : t.progress c with
  | none => exact raise_run t d c o
  | some cur =>
    simp only [Nat.not_le.2 (hr cur hp), if_false]
    exact raise_run t d c o

/-- What an acknowledgment can do: refuse an offset out of range, answer a stale one with the
progress held, or write a raise to the store and take it once the write is done, failing with
the store's failure otherwise. Nothing else changes. -/
theorem acknowledge_cases (t : AckTracker) (d : Disk) (c : ConsumerId) (o n : Nat) :
    (n ≤ o ∧ acknowledge c o n (t, d) = .error (.outOfRange o n) (t, d)) ∨
    (o < n ∧ ∃ cur, t.progress c = some cur ∧ o ≤ cur ∧ acknowledge c o n (t, d) = .ok cur (t, d)) ∨
    (o < n ∧ ProgressStore.Raises t.acked c o ∧
      ((∃ s' d', ProgressStore.record c o (t.store, d) = .ok () (s', d') ∧
          acknowledge c o n (t, d) = .ok o (⟨s', t.acked.insert c o⟩, d')) ∨
       (∃ e s' d', ProgressStore.record c o (t.store, d) = .error e (s', d') ∧
          acknowledge c o n (t, d) = .error (.ofStore e) ({ t with store := s' }, d')))) := by
  by_cases hn : n ≤ o
  · left
    refine ⟨hn, ?_⟩
    simp only [acknowledge, hn, if_true, bind, EStateM.bind]
    rfl
  right
  have hlt : o < n := by omega
  by_cases hr : ProgressStore.Raises t.acked c o
  · refine Or.inr ⟨hlt, hr, ?_⟩
    rw [acknowledge_of_raises t d hlt hr]
    rcases ProgressStore.record c o (t.store, d) with ⟨⟨⟩, s', d'⟩ | ⟨e, s', d'⟩
    · exact Or.inl ⟨s', d', rfl, rfl⟩
    · exact Or.inr ⟨e, s', d', rfl, rfl⟩
  · -- stale: the progress held is at least the offset
    obtain ⟨cur, hp, hle⟩ := ProgressStore.not_raises_iff.1 hr
    exact Or.inl ⟨hlt, cur, hp, hle, acknowledge_stale t d c o n cur hlt hp hle⟩

/-- What an acknowledgment answers: a success is the progress after the call and at least the
offset; a failure leaves the progress and the store's map, and past the range check it is the
failure of the store's write; a stale acknowledgment changes nothing and writes nothing. -/
theorem acknowledge_answers (t : AckTracker) (c : ConsumerId) (o n : Nat) (d : Disk) :
    (∀ p x, acknowledge c o n (t, d) = .ok p x → x.1.progress c = some p ∧ o ≤ p) ∧
    (n ≤ o → acknowledge c o n (t, d) = .error (.outOfRange o n) (t, d)) ∧
    (∀ e x, acknowledge c o n (t, d) = .error e x →
      x.1.acked = t.acked ∧ x.1.store.map = t.store.map ∧
      (o < n → ∃ e' x', ProgressStore.record c o (t.store, d) = .error e' x' ∧ e = .ofStore e')) ∧
    (∀ cur, t.progress c = some cur → o ≤ cur → o < n → acknowledge c o n (t, d) = .ok cur (t, d)) := by
  rcases acknowledge_cases t d c o n with
    ⟨hn, hr⟩ | ⟨hlt, cur, hp, hle, hr⟩ | ⟨hlt, hraise, ⟨s', d', hrec, hr⟩ | ⟨e, s', d', hrec, hr⟩⟩ <;>
    rw [hr] <;> refine ⟨?_, ?_, ?_, ?_⟩
  -- out of range: nothing changes
  · intro p x h; cases h
  · intro; rfl
  · intro e x h
    cases h
    exact ⟨rfl, rfl, fun h => absurd hn (Nat.not_le.2 h)⟩
  · intro _ _ _ hlt; exact absurd hn (Nat.not_le.2 hlt)
  -- stale: the progress held is the answer
  · intro p x h
    cases h
    exact ⟨hp, hle⟩
  · intro hn; exact absurd hlt (Nat.not_lt.2 hn)
  · intro e x h; cases h
  · intro cur' hp' _ _
    rw [hp] at hp'
    cases hp'
    rfl
  -- a raise that is written is the new progress
  · intro p x h
    cases h
    exact ⟨ProgressMap.get?_insert _ _ _, le_refl o⟩
  · intro hn; exact absurd hlt (Nat.not_lt.2 hn)
  · intro e x h; cases h
  · intro cur hp hle _; exact absurd hle (Nat.not_le.2 (hraise cur hp))
  -- a raise whose write fails leaves the store's map
  · intro p x h; cases h
  · intro hn; exact absurd hlt (Nat.not_lt.2 hn)
  · intro e' x h
    cases h
    exact ⟨rfl, ProgressStore.record_error hrec, fun _ => ⟨e, (s', d'), hrec, rfl⟩⟩
  · intro cur hp hle _; exact absurd hle (Nat.not_le.2 (hraise cur hp))

end AckTracker

/-- An acknowledgment as a caller makes it: the consumer, the offset, and the next offset of
the log it is made against. -/
structure Ack where
  consumer : ConsumerId
  offset : Nat
  nextOffset : Nat

/-- A tracker, with the offsets each consumer has had taken since the tracker was built, stale
ones included. -/
structure AckLedger where
  tracker : AckTracker
  taken : ConsumerId → List Nat

namespace AckLedger

/-- A ledger that has taken nothing yet. -/
def start (t : AckTracker) : AckLedger := ⟨t, fun _ => []⟩

/-- Makes an acknowledgment, with the disk as the environment left it. -/
def call (k : AckLedger) (a : Ack) (d : Disk) : AckLedger :=
  match AckTracker.acknowledge a.consumer a.offset a.nextOffset (k.tracker, d) with
  | .ok _ (t, _) => ⟨t, Function.update k.taken a.consumer (k.taken a.consumer ++ [a.offset])⟩
  | .error _ (t, _) => ⟨t, k.taken⟩

/-- Makes acknowledgments in order. -/
def run (k : AckLedger) : List (Ack × Disk) → AckLedger
  | [] => k
  | (a, d) :: rest => (k.call a d).run rest

/-- The tracker lists what its store lists, and each consumer's progress is the largest of what
the tracker it started from held and of what it has taken since. -/
structure Sound (t₀ : AckTracker) (k : AckLedger) : Prop where
  coherent : k.tracker.Coherent
  progress_eq : ∀ c, k.tracker.progress c = ((t₀.progress c).toList ++ k.taken c).max?

theorem sound_start {t₀ : AckTracker} (h : t₀.Coherent) : Sound t₀ (start t₀) := by
  refine ⟨h, fun c => ?_⟩
  cases hp : t₀.progress c <;> simp [start, hp]

/-- One acknowledgment keeps the ledger sound: the four things it can do each keep the tracker
beside its store, and the progress it leaves is the largest offset taken. -/
theorem Sound.call {t₀ : AckTracker} {k : AckLedger} (hk : Sound t₀ k) (a : Ack) (d : Disk) :
    Sound t₀ (k.call a d) := by
  obtain ⟨c, o, n⟩ := a
  have ht := hk.coherent
  unfold AckLedger.call
  rcases AckTracker.acknowledge_cases k.tracker d c o n with
    ⟨hn, hr⟩ | ⟨hlt, cur, hp, hle, hr⟩ | ⟨hlt, hraise, ⟨s', d', hrec, hr⟩ | ⟨e, s', d', hrec, hr⟩⟩ <;>
    simp only [hr]
  · exact hk
  · -- a stale offset is taken, and the largest stays what it was
    refine ⟨ht, fun c' => ?_⟩
    dsimp only
    by_cases hc : c' = c
    · subst hc
      rw [Function.update_self, ← List.append_assoc, max?_append_singleton, ← hk.progress_eq, hp]
      simp [Nat.max_eq_left hle]
    · rw [Function.update_of_ne hc, hk.progress_eq]
  · -- a raise is taken, and it is the new largest
    have hmap := ProgressStore.record_raise_ok (ht.agrees ▸ hraise) hrec
    refine ⟨⟨by rw [hmap, ht.agrees], ht.sorted.insert c o⟩, fun c' => ?_⟩
    dsimp only
    by_cases hc : c' = c
    · subst hc
      rw [Function.update_self, ← List.append_assoc, max?_append_singleton, ← hk.progress_eq]
      simp only [AckTracker.progress, ProgressMap.get?_insert]
      cases hp : k.tracker.acked.get? c' with
      | none => rfl
      | some cur => simp [Nat.max_eq_right (hraise cur hp).le]
    · have hraw : c.raw ≠ c'.raw := fun h => hc (ConsumerId.eq_of_raw h).symm
      rw [Function.update_of_ne hc, ← hk.progress_eq]
      exact ProgressMap.get?_insert_of_ne _ _ _ _ hraw
  · -- a failed write leaves the tracker's progress and the store's map
    have hmap := ProgressStore.record_error hrec
    exact ⟨⟨by rw [hmap]; exact ht.agrees, ht.sorted⟩, hk.progress_eq⟩

theorem Sound.run {t₀ : AckTracker} {k : AckLedger} (hk : Sound t₀ k) (calls : List (Ack × Disk)) :
    Sound t₀ (k.run calls) := by
  induction calls generalizing k with
  | nil => exact hk
  | cons call rest ih => exact ih (hk.call call.1 call.2)

end AckLedger

/-- A tracker built by recovery, or new over an empty store, and any sequence of
acknowledgments made on it, with any consumers, offsets and next offsets and on disks where
any write may fail: afterwards the tracker lists exactly what its store lists, it counts the
consumers it lists, and each consumer's progress is the largest of its recovered progress and
the offsets taken from it. The next acknowledgment answers with the progress it leaves, which
is at least its offset; one out of range fails so and changes nothing; a failure leaves the
progress and the store's map, and past the range check it is the store's own failure; and a
stale one changes nothing and writes nothing. -/
theorem acknowledgments_keep_store_and_maximum (t₀ : AckTracker) (h₀ : t₀.Built)
    (calls : List (Ack × Disk)) :
    let k := (AckLedger.start t₀).run calls
    k.tracker.all = k.tracker.store.load ∧ k.tracker.tracked = k.tracker.all.length ∧
    (∀ c, k.tracker.progress c = ((t₀.progress c).toList ++ k.taken c).max?) ∧
    ∀ (c : ConsumerId) (o n : Nat) (d : Disk),
      (∀ p x, AckTracker.acknowledge c o n (k.tracker, d) = .ok p x →
        x.1.progress c = some p ∧ o ≤ p) ∧
      (n ≤ o → AckTracker.acknowledge c o n (k.tracker, d) = .error (.outOfRange o n) (k.tracker, d)) ∧
      (∀ e x, AckTracker.acknowledge c o n (k.tracker, d) = .error e x →
        x.1.acked = k.tracker.acked ∧ x.1.store.map = k.tracker.store.map ∧
        (o < n → ∃ e' x', ProgressStore.record c o (k.tracker.store, d) = .error e' x' ∧
          e = .ofStore e')) ∧
      (∀ cur, k.tracker.progress c = some cur → o ≤ cur → o < n →
        AckTracker.acknowledge c o n (k.tracker, d) = .ok cur (k.tracker, d)) := by
  intro k
  have hk : AckLedger.Sound t₀ k := (AckLedger.sound_start h₀.coherent).run calls
  refine ⟨?_, rfl, hk.progress_eq, AckTracker.acknowledge_answers k.tracker⟩
  simp only [AckTracker.all, ProgressStore.load, hk.coherent.agrees]

/-- A tracker recovered from a store whose progress is past the log, which it rewinds, then a
stale, an out of range and a raising acknowledgment. -/
theorem acknowledgments_after_rewind :
    let a : ConsumerId := ⟨"a", by decide⟩
    let t₀ : AckTracker := ⟨{ map := ⟨[(a, 1)]⟩ }, ⟨[(a, 1)]⟩⟩
    let k := (AckLedger.start t₀).run [(⟨a, 0, 2⟩, {}), (⟨a, 5, 2⟩, {}), (⟨a, 3, 6⟩, {})]
    t₀.Built ∧
    k.tracker.all = k.tracker.store.load ∧ k.tracker.tracked = k.tracker.all.length ∧
    (∀ c, k.tracker.progress c = ((t₀.progress c).toList ++ k.taken c).max?) ∧
    ∀ (c : ConsumerId) (o n : Nat) (d : Disk),
      (∀ p x, AckTracker.acknowledge c o n (k.tracker, d) = .ok p x →
        x.1.progress c = some p ∧ o ≤ p) ∧
      (n ≤ o → AckTracker.acknowledge c o n (k.tracker, d) = .error (.outOfRange o n) (k.tracker, d)) ∧
      (∀ e x, AckTracker.acknowledge c o n (k.tracker, d) = .error e x →
        x.1.acked = k.tracker.acked ∧ x.1.store.map = k.tracker.store.map ∧
        (o < n → ∃ e' x', ProgressStore.record c o (k.tracker.store, d) = .error e' x' ∧
          e = .ofStore e')) ∧
      (∀ cur, k.tracker.progress c = some cur → o ≤ cur → o < n →
        AckTracker.acknowledge c o n (k.tracker, d) = .ok cur (k.tracker, d)) := by
  intro a t₀ k
  have h₀ : t₀.Built :=
    @AckTracker.Built.recovered { map := ⟨[(a, 4)]⟩ } { map := ⟨[(a, 1)]⟩ } 2 {} {} ⟨[(a, 1)]⟩
      (List.pairwise_singleton _ _) rfl
  exact ⟨h₀, acknowledgments_keep_store_and_maximum t₀ h₀ _⟩

end ChangeLog
