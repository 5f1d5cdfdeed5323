import ChangeLog.Proofs.Stream.Progress
/-
  Progress maps in order, and what the writes of a progress store do to the map it holds.

  A map lists each consumer once, in the order of the names' text (`Sorted`). Setting and
  forgetting keep that order, and two maps in order that give every consumer the same offset
  are one map (`eq_of_get?_eq`): a map in order is known by what it answers, so the progress
  of a tracker and that of its store can be compared as lists. Every store the program builds
  holds a map in order.

  A write of a store may fail, when the store has turned read-only or its journal cannot be
  written; the map is then as it was. A write that is done changes the map as the record says.

  Main statements: `eq_of_get?_eq`, `record_raise_ok`, `record_error`, `rewind_ok`.
-/

namespace ChangeLog

theorem ConsumerId.eq_of_raw {c d : ConsumerId} (h : c.raw = d.raw) : c = d := by
  cases c; cases d; cases h; rfl

namespace ProgressMap

/-- Each consumer is listed once, in the order of the names' text. -/
def Sorted (m : ProgressMap) : Prop := m.entries.Pairwise fun a b => a.1.raw < b.1.raw

theorem sorted_empty : ({} : ProgressMap).Sorted := List.Pairwise.nil

theorem pairwise_insertEntry (c : ConsumerId) (o : Nat) {xs : List (ConsumerId × Nat)}
    (h : xs.Pairwise fun a b => a.1.raw < b.1.raw) :
    (insertEntry c o xs).Pairwise fun a b => a.1.raw < b.1.raw := by
  induction xs with
  | nil => simp [insertEntry]
  | cons x rest ih =>
    obtain ⟨d, p⟩ := x
    rw [List.pairwise_cons] at h
    obtain ⟨hd, hrest⟩ := h
    simp only [insertEntry]
    split
    · -- the entry of the consumer is replaced in its place
      rename_i heq
      exact List.pairwise_cons.2 ⟨fun e he => heq ▸ hd e he, hrest⟩
    · split
      · rename_i _ hlt
        refine List.pairwise_cons.2 ⟨fun e he => ?_, List.pairwise_cons.2 ⟨hd, hrest⟩⟩
        rcases List.mem_cons.1 he with rfl | he
        · exact hlt
        · exact lt_trans hlt (hd e he)
      · rename_i hne hnlt
        -- the name sorts after this entry, so the entry goes further in
        have hgt : d.raw < c.raw := lt_of_le_of_ne (not_lt.1 hnlt) (Ne.symm hne)
        refine List.pairwise_cons.2 ⟨fun e he => ?_, ih hrest⟩
        rcases mem_insertEntry he with rfl | he
        · exact hgt
        · exact hd e he

theorem Sorted.insert {m : ProgressMap} (h : m.Sorted) (c : ConsumerId) (o : Nat) :
    (m.insert c o).Sorted :=
  pairwise_insertEntry c o h

theorem eraseEntry_sublist (c : ConsumerId) (xs : List (ConsumerId × Nat)) :
    (eraseEntry c xs).Sublist xs := by
  induction xs with
  | nil => exact List.Sublist.slnil
  | cons x rest ih =>
    simp only [eraseEntry]
    split
    · exact List.sublist_cons_self x rest
    · exact ih.cons_cons x

theorem Sorted.erase {m : ProgressMap} (h : m.Sorted) (c : ConsumerId) : (m.erase c).Sorted :=
  List.Pairwise.sublist (eraseEntry_sublist c m.entries) h

theorem Sorted.record {m : ProgressMap} (h : m.Sorted) (c : ConsumerId) (o : Nat) :
    (m.record c o).Sorted :=
  h.insert c _

theorem Sorted.rewind {m : ProgressMap} (h : m.Sorted) (c : ConsumerId) (o : Option Nat) :
    (m.rewind c o).Sorted := by
  cases o with
  | none => exact h.erase c
  | some o => exact h.insert c o

theorem Sorted.apply {m : ProgressMap} (h : m.Sorted) (r : ProgressRecord) :
    (ProgressRecord.apply m r).Sorted := by
  cases r with
  | ack c o => exact h.record c o
  | rewind c o => exact h.rewind c o

theorem find?_eraseEntry_of_ne (c : ConsumerId) {k : String} (h : c.raw ≠ k)
    (xs : List (ConsumerId × Nat)) :
    (eraseEntry c xs).find? (fun e => e.1.raw = k) = xs.find? (fun e => e.1.raw = k) := by
  induction xs with
  | nil => rfl
  | cons x rest ih =>
    obtain ⟨d, p⟩ := x
    simp only [eraseEntry]
    split
    · rename_i heq
      have : ¬ d.raw = k := fun e => h (heq.trans e)
      simp [this]
    · by_cases hx : d.raw = k <;> simp [hx, ih]

/-- Forgetting a consumer leaves the others' offsets. -/
theorem get?_erase_of_ne (m : ProgressMap) {c d : ConsumerId} (h : c.raw ≠ d.raw) :
    (m.erase c).get? d = m.get? d := by
  simp only [get?, erase, find?_eraseEntry_of_ne c h]

theorem find?_eraseEntry_self (c : ConsumerId) {xs : List (ConsumerId × Nat)}
    (h : xs.Pairwise fun a b => a.1.raw < b.1.raw) :
    (eraseEntry c xs).find? (fun e => e.1.raw = c.raw) = none := by
  induction xs with
  | nil => rfl
  | cons x rest ih =>
    obtain ⟨d, p⟩ := x
    rw [List.pairwise_cons] at h
    simp only [eraseEntry]
    split
    · rename_i heq
      -- every later entry sorts after this one, so none has the name
      rw [List.find?_eq_none]
      intro e he hc
      have := h.1 e he
      rw [← heq, of_decide_eq_true hc] at this
      exact lt_irrefl _ this
    · rename_i hne
      have : ¬ d.raw = c.raw := fun e => hne e.symm
      simp [this, ih h.2]

/-- In a map in order a consumer is listed once, so forgetting it leaves no offset. -/
theorem Sorted.get?_erase {m : ProgressMap} (h : m.Sorted) (c : ConsumerId) :
    (m.erase c).get? c = none := by
  simp only [get?, ProgressMap.erase, find?_eraseEntry_self c h, Option.map_none]

theorem Sorted.get?_rewind {m : ProgressMap} (h : m.Sorted) (c : ConsumerId) (o : Option Nat) :
    (m.rewind c o).get? c = o := by
  cases o with
  | none => exact h.get?_erase c
  | some o => exact get?_insert m c o

theorem get?_rewind_of_ne (m : ProgressMap) {c d : ConsumerId} (o : Option Nat) (h : c.raw ≠ d.raw) :
    (m.rewind c o).get? d = m.get? d := by
  cases o with
  | none => exact get?_erase_of_ne m h
  | some o => exact get?_insert_of_ne m c d o h

/-- In a map in order an entry is listed exactly when a look-up of its consumer gives its
offset. -/
theorem Sorted.mem_iff {m : ProgressMap} (h : m.Sorted) (e : ConsumerId × Nat) :
    e ∈ m.entries ↔ m.get? e.1 = some e.2 := by
  have hinj : (m.entries.map fun a => a.1.raw).Nodup :=
    (List.pairwise_map.2 h).imp ne_of_lt
  constructor
  · intro he
    obtain ⟨e', hfind⟩ : ∃ e', m.entries.find? (fun a => a.1.raw = e.1.raw) = some e' :=
      Option.isSome_iff_exists.1 (List.find?_isSome.2 ⟨e, he, by simp⟩)
    have hmem := List.mem_of_find?_eq_some hfind
    have hraw : e'.1.raw = e.1.raw := by simpa using List.find?_some hfind
    -- two listed entries with one name are one entry
    have : e' = e := List.inj_on_of_nodup_map hinj hmem he hraw
    simp [get?, hfind, this]
  · intro hget
    obtain ⟨e', hfind, hval⟩ := Option.map_eq_some_iff.1 hget
    have hraw : e'.1.raw = e.1.raw := by simpa using List.find?_some hfind
    have : e' = e := Prod.ext (ConsumerId.eq_of_raw hraw) hval
    exact this ▸ List.mem_of_find?_eq_some hfind

/-- Two maps in order that give every consumer the same offset are one map. -/
theorem eq_of_get?_eq {m₁ m₂ : ProgressMap} (h₁ : m₁.Sorted) (h₂ : m₂.Sorted)
    (h : ∀ c, m₁.get? c = m₂.get? c) : m₁ = m₂ := by
  have hperm : m₁.entries.Perm m₂.entries := by
    have hnodup : ∀ m : ProgressMap, m.Sorted → m.entries.Nodup := fun m h =>
      h.imp fun hlt e => by subst e; exact lt_irrefl _ hlt
    rw [List.perm_ext_iff_of_nodup (hnodup _ h₁) (hnodup _ h₂)]
    intro e
    rw [h₁.mem_iff, h₂.mem_iff, h]
  obtain ⟨xs⟩ := m₁
  obtain ⟨ys⟩ := m₂
  congr 1
  exact hperm.eq_of_pairwise (fun a b _ _ hab hba => absurd hab (not_lt.2 hba.le)) h₁ h₂

end ProgressMap

namespace ProgressStore

variable {s s' : ProgressStore} {d d' : Disk}

theorem spend_ok {u : Unit} (h : spend (s, d) = .ok u (s', d')) : s'.map = s.map ∧ d' = d := by
  simp only [spend, bind, EStateM.bind, Within.current_apply] at h
  rcases hw : s.writesLeft with _ | _ | n <;> simp only [hw] at h <;> cases h <;> exact ⟨rfl, rfl⟩

theorem spend_error {e : StoreError} (h : spend (s, d) = .error e (s', d')) : s' = s ∧ d' = d := by
  simp only [spend, bind, EStateM.bind, Within.current_apply] at h
  rcases hw : s.writesLeft with _ | _ | n <;> simp only [hw] at h <;> cases h
  exact ⟨rfl, rfl⟩

theorem log_ok {r : ProgressRecord} {u : Unit} (h : log r (s, d) = .ok u (s', d')) :
    s'.map = s.map := by
  simp only [log, bind, EStateM.bind, Within.current_apply] at h
  rcases hj : s.journal with _ | j <;> simp only [hj] at h
  · cases h; rfl
  · simp only [EStateM.bind, Within.disk] at h
    rcases ha : j.append r.encode d with ⟨⟨j', p⟩, d₁⟩ | ⟨e, d₁⟩ <;> simp only [ha] at h <;> cases h
    rfl

theorem log_error {r : ProgressRecord} {e : StoreError} (h : log r (s, d) = .error e (s', d')) :
    s' = s := by
  simp only [log, bind, EStateM.bind, Within.current_apply] at h
  rcases hj : s.journal with _ | j <;> simp only [hj] at h
  · cases h
  · simp only [EStateM.bind, Within.disk] at h
    rcases ha : j.append r.encode d with ⟨⟨j', p⟩, d₁⟩ | ⟨e, d₁⟩ <;> simp only [ha] at h <;> cases h
    rfl

/-- A write that is done: the store's budget is spent, the record logged, and the map
changed by it. -/
theorem write_ok {r : ProgressRecord} {f : ProgressMap → ProgressMap} {u : Unit}
    (h : (do spend; log r; change f : Within ProgressStore StoreError Unit) (s, d) = .ok u (s', d')) :
    s'.map = f s.map := by
  simp only [bind, EStateM.bind] at h
  rcases hs : spend (s, d) with ⟨u₁, s₁, d₁⟩ | ⟨e, s₁, d₁⟩ <;> rw [hs] at h
  · rcases hl : log r (s₁, d₁) with ⟨u₂, s₂, d₂⟩ | ⟨e, s₂, d₂⟩ <;> simp only [hl] at h
    · simp only [change, bind, EStateM.bind, Within.current_apply, Within.replace_apply] at h
      cases h
      rw [log_ok hl, (spend_ok hs).1]
    · cases h
  · cases h

/-- A write that fails leaves the map: it fails before the change. -/
theorem write_error {r : ProgressRecord} {f : ProgressMap → ProgressMap} {e : StoreError}
    (h : (do spend; log r; change f : Within ProgressStore StoreError Unit) (s, d) = .error e (s', d')) :
    s'.map = s.map := by
  simp only [bind, EStateM.bind] at h
  rcases hs : spend (s, d) with ⟨u₁, s₁, d₁⟩ | ⟨e', s₁, d₁⟩ <;> rw [hs] at h
  · rcases hl : log r (s₁, d₁) with ⟨u₂, s₂, d₂⟩ | ⟨e', s₂, d₂⟩ <;> simp only [hl] at h
    · simp only [change, bind, EStateM.bind, Within.current_apply, Within.replace_apply] at h
      cases h
    · cases h
      rw [log_error hl, (spend_ok hs).1]
  · cases h
    rw [(spend_error hs).1]

/-- Whether recording an offset raises what a map holds for the consumer. -/
def Raises (m : ProgressMap) (c : ConsumerId) (o : Nat) : Prop := ∀ cur, m.get? c = some cur → cur < o

/-- An offset raises nothing exactly when the consumer holds one at least as large. -/
theorem not_raises_iff {m : ProgressMap} {c : ConsumerId} {o : Nat} :
    ¬ Raises m c o ↔ ∃ cur, m.get? c = some cur ∧ o ≤ cur := by
  constructor
  · intro hr
    by_contra hne
    exact hr fun cur hc => Nat.lt_of_not_le fun hle => hne ⟨cur, hc, hle⟩
  · rintro ⟨cur, hc, hle⟩ hr
    exact absurd (hr cur hc) (Nat.not_lt.2 hle)

/-- Recording an offset that raises the progress sets it. -/
theorem record_of_raises {m : ProgressMap} {c : ConsumerId} {o : Nat} (hr : Raises m c o) :
    m.record c o = m.insert c o := by
  rw [ProgressMap.record]
  cases hc : m.get? c with
  | none => rfl
  | some cur => simp only [Nat.max_eq_right (hr cur hc).le]

/-- An acknowledgment that raises the progress is written: it is never skipped. -/
theorem record_raise {c : ConsumerId} {o : Nat} (hr : Raises s.map c o) :
    record c o (s, d) =
      (do spend; log (.ack c o); change (·.record c o) : Within ProgressStore StoreError Unit)
        (s, d) := by
  cases hc : s.map.get? c with
  | none =>
    simp only [record, bind, EStateM.bind, Within.current_apply, hc, Bool.not_true,
      Bool.and_false, Bool.false_eq_true, if_false]
  | some cur =>
    simp only [record, bind, EStateM.bind, Within.current_apply, hc,
      decide_eq_true (hr cur hc), Bool.not_true, Bool.and_false, Bool.false_eq_true, if_false]

/-- A record that raises the progress is written, and sets it to the offset once done. -/
theorem record_raise_ok {c : ConsumerId} {o : Nat} {u : Unit} (hr : Raises s.map c o)
    (h : record c o (s, d) = .ok u (s', d')) : s'.map = s.map.insert c o := by
  rw [record_raise hr] at h
  rw [write_ok h, record_of_raises hr]

/-- A record that fails leaves the map. -/
theorem record_error {c : ConsumerId} {o : Nat} {e : StoreError}
    (h : record c o (s, d) = .error e (s', d')) : s'.map = s.map := by
  simp only [record, bind, EStateM.bind, Within.current_apply] at h
  -- a skipped write answers at once; a write made fails before the change
  split at h <;> dsimp only at h <;> split at h
  · cases h
  · exact write_error h
  · cases h
  · exact write_error h

/-- A rewind that is done sets the consumer's offset exactly, or forgets the consumer. -/
theorem rewind_ok {c : ConsumerId} {o : Option Nat} {u : Unit}
    (h : rewind c o (s, d) = .ok u (s', d')) : s'.map = s.map.rewind c o :=
  write_ok h

end ProgressStore

end ChangeLog
