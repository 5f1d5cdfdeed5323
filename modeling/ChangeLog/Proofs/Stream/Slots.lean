import ChangeLog.Proofs.Stream.Tracker
import ChangeLog.Proofs.Stream.Calls
/-
  The slots of acknowledgments stand for the tracker of acknowledgments. A slot holds the
  acknowledged offset plus one, zero for none; the view reads every slot back
  (`ProgressMap.held`) and keeps the store. A slot made at zero holds nothing
  (`held_insert_zero`) and a slot raised to an offset plus one holds that offset
  (`held_insert_succ`), so as long as the slots are in order:

  * one acknowledgment on the slots is that acknowledgment on the tracker they stand for, with
    the same answer or failure (`acknowledge_refines`), and so is any sequence of them
    (`acknowledgeAll_refines`). A stale offset is told from the slot alone; a raise writes the
    store first and only then takes the maximum in the slot, which the write cannot have
    moved, so the maximum is the offset plus one;
  * recovery into slots makes the rewinds that recovery of the tracker makes
    (`recover_refines`);
  * the slots answer every query as the tracker does (`view_queries`).

  Main statement: `recovered_slots_keep_store_and_maximum`, the tracker's invariant read off
  the slots.
-/

namespace ChangeLog

namespace ProgressMap

/-- The progress a map of slots holds: the consumers whose slot is not zero, each with its
slot less one. -/
def held (m : ProgressMap) : ProgressMap :=
  ⟨m.entries.filterMap fun e => (SlotTracker.held e.2).map (e.1, ·)⟩

theorem Sorted.held {m : ProgressMap} (h : m.Sorted) : m.held.Sorted := by
  refine List.Pairwise.filterMap _ (fun a b hab a' ha' b' hb' => ?_) h
  rw [Option.map_eq_some_iff] at ha' hb'
  obtain ⟨_, -, rfl⟩ := ha'
  obtain ⟨_, -, rfl⟩ := hb'
  exact hab

theorem held_cons_zero (d : ConsumerId) (rest : List (ConsumerId × Nat)) :
    ProgressMap.held ⟨(d, 0) :: rest⟩ = ProgressMap.held ⟨rest⟩ := rfl

theorem held_cons_succ (d : ConsumerId) (v : Nat) (rest : List (ConsumerId × Nat)) :
    ProgressMap.held ⟨(d, v + 1) :: rest⟩ = ⟨(d, v) :: (ProgressMap.held ⟨rest⟩).entries⟩ := rfl

/-- A consumer's progress in the map of slots is what its slot holds. -/
theorem get?_held {m : ProgressMap} (h : m.Sorted) (c : ConsumerId) :
    m.held.get? c = (m.get? c).bind SlotTracker.held := by
  obtain ⟨xs⟩ := m
  induction xs with
  | nil => rfl
  | cons e rest ih =>
    obtain ⟨d, v⟩ := e
    have hrest : ProgressMap.Sorted ⟨rest⟩ := (List.pairwise_cons.1 h).2
    rw [get?_cons]
    by_cases hd : d.raw = c.raw
    · rw [if_pos hd]
      cases v with
      | zero =>
        -- a slot of zero holds nothing, and the rest does not name the consumer
        rw [held_cons_zero, ih hrest, get?_tail_of_pairwise h hd]
        rfl
      | succ v => rw [held_cons_succ, get?_cons, if_pos hd]; rfl
    · rw [if_neg hd]
      cases v with
      | zero => rw [held_cons_zero, ih hrest]
      | succ v => rw [held_cons_succ, get?_cons, if_neg hd, ← ih hrest]

/-- The slots hold as many consumers as have a slot above zero. -/
theorem length_held (m : ProgressMap) :
    m.held.entries.length = (m.entries.filter fun e => 0 < e.2).length := by
  obtain ⟨xs⟩ := m
  induction xs with
  | nil => rfl
  | cons e rest ih =>
    obtain ⟨d, v⟩ := e
    cases v with
    | zero => simpa [held_cons_zero] using ih
    | succ v => simpa [held_cons_succ, List.filter_cons] using ih

/-- Raising a slot to an offset plus one holds that offset. -/
theorem held_insert_succ {m : ProgressMap} (h : m.Sorted) (c : ConsumerId) (o : Nat) :
    (m.insert c (o + 1)).held = m.held.insert c o := by
  refine eq_of_get?_eq (h.insert c _).held (h.held.insert c o) fun c' => ?_
  rw [get?_held (h.insert c _)]
  by_cases hc : c.raw = c'.raw
  · obtain rfl := ConsumerId.eq_of_raw hc
    simp only [get?_insert]
    rfl
  · rw [get?_insert_of_ne _ _ _ _ hc, get?_insert_of_ne _ _ _ _ hc, get?_held h]

/-- A new slot of zero holds nothing. -/
theorem held_insert_zero {m : ProgressMap} (h : m.Sorted) {c : ConsumerId} (hc : m.get? c = none) :
    (m.insert c 0).held = m.held := by
  refine eq_of_get?_eq (h.insert c _).held h.held fun c' => ?_
  rw [get?_held (h.insert c _), get?_held h]
  by_cases hcc : c.raw = c'.raw
  · obtain rfl := ConsumerId.eq_of_raw hcc
    rw [get?_insert, hc]
    rfl
  · rw [get?_insert_of_ne _ _ _ _ hcc]

end ProgressMap

/-- The tracker a ledger's acknowledgment leaves, whatever it answered. -/
theorem AckLedger.call_tracker (k : AckLedger) (a : Ack) (d : Disk) :
    (k.call a d).tracker =
      (stateOf (AckTracker.acknowledge a.consumer a.offset a.nextOffset (k.tracker, d))).1 := by
  unfold AckLedger.call
  rcases AckTracker.acknowledge a.consumer a.offset a.nextOffset (k.tracker, d) with
    ⟨p, t, d'⟩ | ⟨e, t, d'⟩ <;> rfl

namespace SlotTracker

variable {t : SlotTracker} {d : Disk}

/-- The tracker the slots stand for. -/
def view (t : SlotTracker) : AckTracker := ⟨t.store, t.slots.held⟩

/-- A run on the slots, as the tracker they stand for sees it. -/
def seen {α : Type} : EStateM.Result StreamError (SlotTracker × Disk) α →
    EStateM.Result StreamError (AckTracker × Disk) α
  | .ok a (t, d) => .ok a (t.view, d)
  | .error e (t, d) => .error e (t.view, d)

theorem progress_eq (t : SlotTracker) (c : ConsumerId) :
    t.progress c = (t.slots.get? c).bind held := rfl

/-- The slot of a consumer: the one it has, or a new one at zero, which the view does not
see. -/
theorem slot_spec (ht : t.slots.Sorted) (c : ConsumerId) :
    ∃ cur t₁, slot c (t, d) = .ok cur (t₁, d) ∧ t₁.store = t.store ∧ t₁.slots.Sorted ∧
      t₁.slots.held = t.slots.held ∧ t₁.slots.get? c = some cur ∧ t.progress c = held cur := by
  cases hc : t.slots.get? c with
  | some v =>
    refine ⟨v, t, ?_, rfl, ht, rfl, hc, by rw [progress_eq, hc]; rfl⟩
    simp only [slot, bind, EStateM.bind, Within.current_apply, hc]
    rfl
  | none =>
    refine ⟨0, { t with slots := t.slots.insert c 0 }, ?_, rfl, ht.insert c 0,
      ProgressMap.held_insert_zero ht hc, ProgressMap.get?_insert _ _ _,
      by rw [progress_eq, hc]; rfl⟩
    simp only [slot, bind, EStateM.bind, Within.current_apply, hc]
    rfl

theorem fetchMax_run (t : SlotTracker) (d : Disk) (c : ConsumerId) (v : Nat) :
    fetchMax c v (t, d) =
      .ok ((t.slots.get? c).getD 0)
        ({ t with slots := t.slots.insert c (max ((t.slots.get? c).getD 0) v) }, d) := rfl

theorem onStore_run {α : Type} (m : Within ProgressStore StoreError α) (t : SlotTracker) (d : Disk) :
    onStore m (t, d) =
      match m (t.store, d) with
      | .ok a (s, d') => .ok a ({ t with store := s }, d')
      | .error e (s, d') => .error (.ofStore e) ({ t with store := s }, d') := by
  simp only [onStore, Within.focus, Within.mapError, EStateM.adaptExcept]
  cases m (t.store, d) <;> rfl

theorem held_eq_some {v p : Nat} : held v = some p ↔ v = p + 1 := by
  cases v <;> simp [held]

/-- The tracker the slots stand for gives every consumer the progress its slot holds. -/
theorem view_progress (ht : t.slots.Sorted) (c : ConsumerId) : t.view.progress c = t.progress c :=
  ProgressMap.get?_held ht c

/-- One acknowledgment on the slots is that acknowledgment on the tracker they stand for: the
same answer or failure, and a state that stands for the tracker's, its slots still in order. -/
theorem acknowledge_refines (ht : t.slots.Sorted) (c : ConsumerId) (o n : Nat) :
    (stateOf (acknowledge c o n (t, d))).1.slots.Sorted ∧
      seen (acknowledge c o n (t, d)) = AckTracker.acknowledge c o n (t.view, d) := by
  by_cases hn : n ≤ o
  · -- out of range: both refuse before anything changes
    have h : acknowledge c o n (t, d) = .error (.outOfRange o n) (t, d) := by
      simp only [acknowledge, hn, if_true, bind, EStateM.bind]
      rfl
    rw [h, (AckTracker.acknowledge_answers t.view c o n d).2.1 hn]
    exact ⟨ht, rfl⟩
  have hlt : o < n := Nat.lt_of_not_le hn
  obtain ⟨cur, t₁, hslot, hstore, hsorted, hheld, hget, hp⟩ := slot_spec (d := d) ht c
  have hview : t₁.view = t.view := by rw [view, view, hstore, hheld]
  by_cases hstale : o + 1 ≤ cur
  · -- stale: the slot answers for itself, and the tracker with the progress it holds
    have h : acknowledge c o n (t, d) = .ok (cur - 1) (t₁, d) := by
      simp only [acknowledge, hn, if_false, bind, EStateM.bind, hslot, hstale, if_true]
      rfl
    have hp' : t.view.progress c = some (cur - 1) := by
      rw [view_progress ht, hp, held_eq_some]
      omega
    rw [h, AckTracker.acknowledge_stale t.view d c o n (cur - 1) hlt hp' (by omega)]
    exact ⟨hsorted, by rw [← hview]; rfl⟩
  · -- a raise: the same write to the store, then the slot is raised to the offset plus one
    have hraise : ProgressStore.Raises t.view.acked c o := by
      intro p hp'
      rw [← AckTracker.progress, view_progress ht, hp, held_eq_some] at hp'
      omega
    have hvs : t.view.store = t.store := rfl
    rw [AckTracker.acknowledge_of_raises t.view d hlt hraise, hvs]
    simp only [acknowledge, hn, if_false, bind, EStateM.bind, hslot, hstale, onStore_run, hstore]
    rcases ProgressStore.record c o (t.store, d) with ⟨u, s', d'⟩ | ⟨e, s', d'⟩
    · -- the slot held less than the offset plus one, which it now holds
      have hmax : max cur (o + 1) = o + 1 := Nat.max_eq_right (by omega)
      simp only [fetchMax_run, hget, Option.getD_some, hmax]
      refine ⟨hsorted.insert c _, ?_⟩
      simp only [pure, EStateM.pure, Nat.add_sub_cancel, seen, view,
        ProgressMap.held_insert_succ hsorted, hheld]
    · exact ⟨hsorted, by simp only [seen, view, hheld]⟩

-- a lower acknowledgment after a higher one is answered with the higher
example :
    let x : ConsumerId := ⟨"consumerX", by decide⟩
    (match acknowledge x 5 10 ({ store := {} }, {}) with
      | .ok p (t₁, d₁) =>
        match acknowledge x 3 10 (t₁, d₁) with
        | .ok q (t₂, _) => some (p, q, t₂.progress x)
        | .error _ _ => none
      | .error _ _ => none) = some (5, 5, some 5) := by
  decide

/-- The tracker the slots stand for answers every query as the slots do. -/
theorem view_queries (ht : t.slots.Sorted) :
    (∀ c, t.view.progress c = t.progress c) ∧ (∀ c, t.view.resumeOffset c = t.resumeOffset c) ∧
      t.view.all = t.all ∧ t.view.tracked = t.tracked := by
  refine ⟨view_progress ht, fun c => ?_, rfl, ProgressMap.length_held t.slots⟩
  simp only [AckTracker.resumeOffset, resumeOffset, view_progress ht]

/-- A recovery into slots, its answer read as the progress the slots hold. -/
def heldAnswer : EStateM.Result StreamError (ProgressStore × Disk) ProgressMap →
    EStateM.Result StreamError (ProgressStore × Disk) ProgressMap
  | .ok m x => .ok m.held x
  | .error e x => .error e x

/-- Recovery into slots is recovery of the tracker they stand for: the same rewinds in the
store, and slots that hold the progress the tracker takes. -/
theorem recoverSlots_refines (n : Nat) (xs : List (ConsumerId × Nat)) :
    ∀ {acc : ProgressMap} (s : ProgressStore) (d : Disk), acc.Sorted →
      heldAnswer (recoverSlots n xs acc (s, d)) =
        AckTracker.recoverEntries n xs acc.held (s, d) := by
  induction xs with
  | nil => intro acc s d _; rfl
  | cons e rest ih =>
    obtain ⟨c, o⟩ := e
    intro acc s d hacc
    by_cases ho : o < n
    · -- below the next offset: the slot is the offset plus one
      simp only [recoverSlots, AckTracker.recoverEntries, ho, if_true, bind, EStateM.bind, pure,
        EStateM.pure]
      rw [ih s d (hacc.insert c _), ProgressMap.held_insert_succ hacc]
    · -- past it: the same rewind, then the slot of the last offset, or none for an empty log
      simp only [recoverSlots, AckTracker.recoverEntries, ho, if_false, bind, EStateM.bind,
        Within.mapError, EStateM.adaptExcept]
      rcases ProgressStore.rewind c (if n = 0 then none else some (n - 1)) (s, d) with
        ⟨u, s₁, d₁⟩ | ⟨e, s₁, d₁⟩
      · by_cases hn : n = 0
        · simp only [if_pos hn, pure, EStateM.pure]
          exact ih s₁ d₁ hacc
        · simp only [if_neg hn, pure, EStateM.pure]
          rw [ih s₁ d₁ (hacc.insert c _), ProgressMap.held_insert_succ hacc]
      · rfl

/-- Recovery into slots leaves them in order. -/
theorem recoverSlots_sorted (n : Nat) (xs : List (ConsumerId × Nat)) :
    ∀ {acc : ProgressMap} {s : ProgressStore} {d : Disk} {m : ProgressMap} {x},
      acc.Sorted → recoverSlots n xs acc (s, d) = .ok m x → m.Sorted := by
  induction xs with
  | nil =>
    intro acc s d m x hacc h
    cases h
    exact hacc
  | cons e rest ih =>
    obtain ⟨c, o⟩ := e
    intro acc s d m x hacc h
    by_cases ho : o < n
    · simp only [recoverSlots, ho, if_true, bind, EStateM.bind, pure, EStateM.pure] at h
      exact ih (hacc.insert c _) h
    · simp only [recoverSlots, ho, if_false, bind, EStateM.bind, Within.mapError,
        EStateM.adaptExcept] at h
      rcases hw : ProgressStore.rewind c (if n = 0 then none else some (n - 1)) (s, d) with
        ⟨u, s₁, d₁⟩ | ⟨e, s₁, d₁⟩ <;> rw [hw] at h
      · by_cases hn : n = 0
        · simp only [if_pos hn, pure, EStateM.pure] at h
          exact ih hacc h
        · simp only [if_neg hn, pure, EStateM.pure] at h
          exact ih (hacc.insert c _) h
      · cases h

/-- Recovery into slots from a store is recovery of the tracker the slots stand for. -/
theorem recover_refines (n : Nat) (s : ProgressStore) (d : Disk) :
    heldAnswer (recover n (s, d)) = AckTracker.recover n (s, d) :=
  recoverSlots_refines n s.load s d ProgressMap.sorted_empty

theorem stateOf_seen {α : Type} (r : EStateM.Result StreamError (SlotTracker × Disk) α) :
    (stateOf (seen r)).1 = (stateOf r).1.view := by
  rcases r with ⟨a, t, d⟩ | ⟨e, t, d⟩ <;> rfl

/-- Makes acknowledgments in order, each on the disk the environment left it; gives the slots
they leave, whatever each answered. -/
def acknowledgeAll (t : SlotTracker) : List (Ack × Disk) → SlotTracker
  | [] => t
  | (a, d) :: rest =>
    acknowledgeAll (stateOf (acknowledge a.consumer a.offset a.nextOffset (t, d))).1 rest

/-- Acknowledgments on the slots, any number of them and on any disks, leave slots in order
that stand for the tracker the same acknowledgments leave. -/
theorem acknowledgeAll_refines {t : SlotTracker} (ht : t.slots.Sorted) {k : AckLedger}
    (hk : k.tracker = t.view) (calls : List (Ack × Disk)) :
    (t.acknowledgeAll calls).slots.Sorted ∧ (t.acknowledgeAll calls).view = (k.run calls).tracker := by
  induction calls generalizing t k with
  | nil => exact ⟨ht, hk.symm⟩
  | cons call rest ih =>
    obtain ⟨a, d⟩ := call
    obtain ⟨hs, hr⟩ := acknowledge_refines (d := d) ht a.consumer a.offset a.nextOffset
    refine ih hs ?_
    rw [AckLedger.call_tracker, hk, ← hr, stateOf_seen]

/-- Slots recovered from a store that lists each consumer once and in order, then any
sequence of acknowledgments, with any consumers, offsets and next offsets and on disks where
any write may fail: the slots list exactly what the store lists, count the consumers they
list, and each consumer's slot holds the largest of its recovered progress and the offsets
acknowledged since. -/
theorem recovered_slots_keep_store_and_maximum {s s' : ProgressStore} {n : Nat} {d d' : Disk}
    {m : ProgressMap} (hs : s.map.Sorted) (hrec : recover n (s, d) = .ok m (s', d'))
    (calls : List (Ack × Disk)) :
    let t := (⟨s', m⟩ : SlotTracker).acknowledgeAll calls
    let k := (AckLedger.start (⟨s', m⟩ : SlotTracker).view).run calls
    t.all = t.store.load ∧ t.tracked = t.all.length ∧
      ∀ c, t.progress c = (((⟨s', m⟩ : SlotTracker).progress c).toList ++ k.taken c).max? := by
  intro t k
  have hm : m.Sorted := recoverSlots_sorted n s.load ProgressMap.sorted_empty hrec
  -- the tracker the recovered slots stand for is the one recovery of the tracker builds
  have hbuilt : (⟨s', m⟩ : SlotTracker).view.Built := by
    have h := recover_refines n s d
    rw [hrec] at h
    exact .recovered hs h.symm
  have hk : AckLedger.Sound _ k := (AckLedger.sound_start hbuilt.coherent).run calls
  -- the slots the acknowledgments leave stand for the tracker they leave
  have hrun := acknowledgeAll_refines (t := ⟨s', m⟩) hm
    (k := AckLedger.start (⟨s', m⟩ : SlotTracker).view) rfl calls
  have hview : t.view = k.tracker := hrun.2
  obtain ⟨hprogress, -, hall, htracked⟩ := view_queries hrun.1
  have hstore : t.store = k.tracker.store := by rw [← hview]; rfl
  refine ⟨?_, ?_, fun c => ?_⟩
  · rw [← hall, hview, hstore]
    simp only [AckTracker.all, ProgressStore.load, hk.coherent.agrees]
  · rw [← htracked, ← hall, hview]
    rfl
  · rw [← hprogress, hview, hk.progress_eq, view_progress hm]

end SlotTracker

end ChangeLog
