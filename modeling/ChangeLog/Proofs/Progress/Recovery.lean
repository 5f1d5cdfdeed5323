import Mathlib
import ChangeLog.Proofs.Stream.Tracker
/-
  Recovery clamps progress to the log, exactly. A store lists its progress in the order of the
  consumers' names, each consumer once, and recovery reads that list against the next offset
  of the log: an offset below it is kept, and any other is rewound to the last offset of the
  log, or forgotten when the log is empty (`AckTracker.clampTo`).

  Recovery writes nothing but those rewinds: it is the rewinds of exactly the consumers whose
  progress is at or past the next offset, each once and in the order of their names
  (`AckTracker.rewindsPast`), followed by the clamped list (`recoverEntries_eq`). Because the
  list is in order, each consumer the tracker takes goes after those it has
  (`ProgressMap.insert_of_lt`), so the tracker's list is built in the store's order. Once the
  rewinds are done, tracker and store both list the clamped progress.

  Main statement: `recovery_clamps_progress`.
-/

namespace ChangeLog

namespace ProgressMap

/-- Setting a consumer that sorts after every listed one adds it at the end. -/
theorem insertEntry_of_lt {c : ConsumerId} (o : Nat) :
    ∀ {xs : List (ConsumerId × Nat)}, (∀ a ∈ xs, a.1.raw < c.raw) → insertEntry c o xs = xs ++ [(c, o)]
  | [], _ => rfl
  | (d, p) :: rest, h => by
    have hd : d.raw < c.raw := h (d, p) List.mem_cons_self
    have hrest : insertEntry c o rest = rest ++ [(c, o)] :=
      insertEntry_of_lt o fun a ha => h a (List.mem_cons_of_mem _ ha)
    simp only [insertEntry, if_neg (ne_of_gt hd), if_neg (not_lt_of_gt hd), hrest, List.cons_append]

theorem insert_of_lt {m : ProgressMap} {c : ConsumerId} (o : Nat) (h : ∀ a ∈ m.entries, a.1.raw < c.raw) :
    m.insert c o = ⟨m.entries ++ [(c, o)]⟩ := by
  rw [insert, insertEntry_of_lt o h]

end ProgressMap

namespace AckTracker

/-- Progress entries clamped to a log whose next offset is given: each offset at most the last
offset of the log, and no entry at all when the log is empty. -/
def clampTo (n : Nat) (entries : List (ConsumerId × Nat)) : List (ConsumerId × Nat) :=
  if n = 0 then [] else entries.map fun e => (e.1, min e.2 (n - 1))

/-- The writes of recovery: a rewind, to the last offset of the log or to none, of each entry
at or past the next offset, in the order of the list. -/
def rewindsPast (n : Nat) (entries : List (ConsumerId × Nat)) : Within ProgressStore StreamError Unit :=
  (entries.filter fun e => n ≤ e.2).forM fun e =>
    Within.mapError StreamError.ofStore
      (ProgressStore.rewind e.1 (if n = 0 then none else some (n - 1)))

theorem clampTo_cons_of_lt {n o : Nat} (c : ConsumerId) (rest : List (ConsumerId × Nat)) (ho : o < n) :
    clampTo n ((c, o) :: rest) = (c, o) :: clampTo n rest := by
  have hn : n ≠ 0 := by omega
  have hle : o ≤ n - 1 := by omega
  simp only [clampTo, hn, if_false, List.map_cons, Nat.min_eq_left hle]

theorem clampTo_cons_of_le {n o : Nat} (c : ConsumerId) (rest : List (ConsumerId × Nat))
    (ho : n ≤ o) (hn : n ≠ 0) : clampTo n ((c, o) :: rest) = (c, n - 1) :: clampTo n rest := by
  simp only [clampTo, hn, if_false, List.map_cons, Nat.min_eq_right (show n - 1 ≤ o by omega)]

theorem rewindsPast_cons_of_lt {n o : Nat} (c : ConsumerId) (rest : List (ConsumerId × Nat))
    (ho : o < n) : rewindsPast n ((c, o) :: rest) = rewindsPast n rest := by
  have hfilter : ((c, o) :: rest).filter (fun e => n ≤ e.2) = rest.filter (fun e => n ≤ e.2) :=
    List.filter_cons_of_neg (by simpa using ho)
  simp only [rewindsPast, hfilter]

theorem rewindsPast_cons_of_le {n o : Nat} (c : ConsumerId) (rest : List (ConsumerId × Nat))
    (ho : n ≤ o) :
    rewindsPast n ((c, o) :: rest) =
      (do Within.mapError StreamError.ofStore
            (ProgressStore.rewind c (if n = 0 then none else some (n - 1)))
          rewindsPast n rest) := by
  have hfilter : ((c, o) :: rest).filter (fun e => n ≤ e.2) =
      (c, o) :: rest.filter (fun e => n ≤ e.2) :=
    List.filter_cons_of_pos (by simpa using ho)
  simp only [rewindsPast, hfilter, List.forM_eq_forM, List.forM_cons]

/-- An entry below the next offset is listed as it is after clamping. -/
theorem mem_clampTo {n : Nat} {entries : List (ConsumerId × Nat)} {c : ConsumerId} {o : Nat}
    (h : (c, o) ∈ entries) (ho : o < n) : (c, o) ∈ clampTo n entries := by
  have hn : n ≠ 0 := by omega
  have hle : o ≤ n - 1 := by omega
  simp only [clampTo, hn, if_false, List.mem_map]
  exact ⟨(c, o), h, by simp [Nat.min_eq_left hle]⟩

/-- Recovery over a list in order, onto a map of consumers that sort before it: the rewinds of
the entries past the log, then the map followed by the clamped list. -/
theorem recoverEntries_eq (n : Nat) (xs : List (ConsumerId × Nat)) :
    ∀ acc : ProgressMap, (xs.Pairwise fun a b => a.1.raw < b.1.raw) →
      (∀ a ∈ acc.entries, ∀ b ∈ xs, a.1.raw < b.1.raw) →
      recoverEntries n xs acc = (do rewindsPast n xs; pure ⟨acc.entries ++ clampTo n xs⟩) := by
  induction xs with
  | nil =>
    intro acc _ _
    simp [recoverEntries, rewindsPast, clampTo]
  | cons e rest ih =>
    obtain ⟨c, o⟩ := e
    intro acc hxs hacc
    obtain ⟨hc, hrest⟩ := List.pairwise_cons.1 hxs
    have hbefore : ∀ a ∈ acc.entries, a.1.raw < c.raw := fun a ha => hacc a ha _ List.mem_cons_self
    -- the map with the consumer taken at the end still sorts before the rest of the list
    have hnext : ∀ l, ∀ a ∈ acc.entries ++ [(c, l)], ∀ b ∈ rest, a.1.raw < b.1.raw := by
      intro l a ha b hb
      rcases List.mem_append.1 ha with ha | ha
      · exact hacc a ha b (List.mem_cons_of_mem _ hb)
      · rw [List.mem_singleton.1 ha]
        exact hc b hb
    have hskip : ∀ a ∈ acc.entries, ∀ b ∈ rest, a.1.raw < b.1.raw :=
      fun a ha b hb => hacc a ha b (List.mem_cons_of_mem _ hb)
    rw [recoverEntries]
    split
    · -- below the next offset: taken as it is, at the end of the map, and nothing written
      rename_i ho
      rw [ProgressMap.insert_of_lt o hbefore, ih _ hrest (hnext o), clampTo_cons_of_lt c rest ho,
        rewindsPast_cons_of_lt c rest ho, List.append_assoc, List.singleton_append]
    · -- at or past it: rewound in the store first, then taken rewound, or forgotten
      rename_i ho
      rw [rewindsPast_cons_of_le c rest (Nat.le_of_not_lt ho), bind_assoc]
      by_cases hn : n = 0
      · subst hn
        simp only [↓reduceIte]
        congr 1
        funext u
        rw [ih _ hrest hskip]
        simp only [clampTo, ↓reduceIte]
      · simp only [hn, if_false]
        congr 1
        funext u
        rw [ProgressMap.insert_of_lt (n - 1) hbefore, ih _ hrest (hnext (n - 1)),
          clampTo_cons_of_le c rest (Nat.le_of_not_lt ho) hn, List.append_assoc,
          List.singleton_append]

theorem eq_of_bind_pure_ok {σ ε α β : Type} {m : EStateM ε σ α} {b : β} {x y : σ} {a : β}
    (h : (m >>= fun _ => pure b) x = .ok a y) : a = b := by
  simp only [bind, EStateM.bind, pure, EStateM.pure] at h
  cases hm : m x <;> rw [hm] at h <;> cases h
  rfl

end AckTracker

/-- Recovering a tracker from a store that lists each consumer once and in order, against a log
whose next offset is `n`: recovery is the rewinds of exactly the consumers whose progress is at
or past `n`, each once, to `n - 1`, or to none when the log is empty, and then the clamped list;
it writes nothing else. When it succeeds, the tracker and the store both list each consumer with
the least of its progress and `n - 1`, and no consumer when `n` is 0, and a consumer whose
progress was below `n` keeps it. -/
theorem recovery_clamps_progress (s : ProgressStore) (hs : s.map.Sorted) (n : Nat) (d : Disk) :
    AckTracker.recover n (s, d) =
      (do AckTracker.rewindsPast n s.load; pure (ProgressMap.mk (AckTracker.clampTo n s.load)) :
        Within ProgressStore StreamError ProgressMap) (s, d) ∧
    ∀ m s' d', AckTracker.recover n (s, d) = .ok m (s', d') →
      (⟨s', m⟩ : AckTracker).all = AckTracker.clampTo n s.load ∧
      s'.load = AckTracker.clampTo n s.load ∧
      ∀ c o, (c, o) ∈ s.load → o < n → (⟨s', m⟩ : AckTracker).progress c = some o := by
  have hrun : AckTracker.recover n (s, d) =
      (do AckTracker.rewindsPast n s.load; pure (ProgressMap.mk (AckTracker.clampTo n s.load)) :
        Within ProgressStore StreamError ProgressMap) (s, d) := by
    simp only [AckTracker.recover, bind, EStateM.bind, Within.current_apply]
    rw [AckTracker.recoverEntries_eq n s.load {} hs (fun a ha => by cases ha)]
    rfl
  refine ⟨hrun, fun m s' d' h => ?_⟩
  have hm : m = ⟨AckTracker.clampTo n s.load⟩ := AckTracker.eq_of_bind_pure_ok (hrun ▸ h)
  have hco := AckTracker.Coherent.recover hs h
  have hagree : m = s'.map := hco.agrees
  have hload : s'.load = AckTracker.clampTo n s.load := by
    rw [ProgressStore.load, ProgressMap.toList, ← hagree, hm]
  refine ⟨by rw [AckTracker.all, ProgressMap.toList, hm], hload, fun c o hmem ho => ?_⟩
  -- the clamped list holds the entry as it was, and a map in order answers what it lists
  have hin : (c, o) ∈ m.entries := hm ▸ AckTracker.mem_clampTo hmem ho
  exact (hco.sorted.mem_iff (c, o)).1 hin

/-- A store with one consumer inside a log of three events and one past it: recovery rewinds
the second to the last offset and keeps the first. -/
theorem recovery_clamps_two_consumers :
    let a : ConsumerId := ⟨"a", by decide⟩
    let b : ConsumerId := ⟨"b", by decide⟩
    let s : ProgressStore := { map := ⟨[(a, 0), (b, 5)]⟩ }
    s.map.Sorted ∧
    AckTracker.recover 3 (s, {}) =
      (do AckTracker.rewindsPast 3 s.load; pure (ProgressMap.mk (AckTracker.clampTo 3 s.load)) :
        Within ProgressStore StreamError ProgressMap) (s, {}) ∧
    ∀ m s' d', AckTracker.recover 3 (s, {}) = .ok m (s', d') →
      (⟨s', m⟩ : AckTracker).all = AckTracker.clampTo 3 s.load ∧
      s'.load = AckTracker.clampTo 3 s.load ∧
      ∀ c o, (c, o) ∈ s.load → o < 3 → (⟨s', m⟩ : AckTracker).progress c = some o := by
  intro a b s
  have hs : s.map.Sorted := List.pairwise_pair.2 (by decide)
  exact ⟨hs, recovery_clamps_progress s hs 3 {}⟩

end ChangeLog
