import Mathlib
import ChangeLog.Disk.Basic
/-
  Paths of the disk, read through their components. A name placed in a directory adds one
  component after the directory's (`components_join`), so the directory is the parent of
  the path (`parent_join`) and two names placed in one directory are two paths
  (`normal_join_inj`). A normal path has the components of the path it is made from
  (`components_normal`), so a path whose directories are in place is itself a directory
  (`DirsAt.lookup`).

  Making the directories of a path visits the prefixes of its components. When they are
  all directories it changes nothing (`createDirAll_of_dirsAt`); when it succeeds they are
  all directories after it, and it has only given a directory to names that had nothing
  (`createDirAll_ok`). Opening a name that holds nothing for appending creates an empty file
  under it (`openAppend_fresh`), and opening the name of a file gives that file
  (`openAppend_file`).
-/

namespace ChangeLog

namespace Disk

section Names

variable {name : String}

/-- A name placed in a directory is one more component after the directory's. -/
theorem components_join (dir : String) (hsl : '/' ∉ name.toList) (hne : name ≠ "")
    (hdot : name ≠ ".") : components (join dir name) = components dir ++ [name] := by
  have hname : name.toList.splitOn '/' = [name.toList] := List.splitOn_eq_singleton hsl
  have hkeep : (name != "" && name != ".") = true := by simp [hne, hdot]
  unfold join
  split_ifs with h0 h1
  · subst h0
    simp [components, hname, hkeep]
  · -- the directory ends with its own slash, which then parts it from the name
    have hend : ['/'] <:+ dir.toList := by
      simpa [← String.endsWith_toSlice, String.Slice.endsWith_string_iff] using h1
    obtain ⟨pre, hpre⟩ := hend
    rw [← List.singleton_append] at hpre
    simp only [components, String.toList_append, ← hpre, List.append_assoc, List.singleton_append,
      List.splitOn_append_cons_self, hname]
    simp [hkeep]
  · have hslash : "/".toList = ['/'] := rfl
    simp only [components, String.toList_append, hslash, List.append_assoc, List.singleton_append,
      List.splitOn_append_cons_self, hname]
    simp [hkeep]

theorem parent_join (dir : String) (hsl : '/' ∉ name.toList) (hne : name ≠ "")
    (hdot : name ≠ ".") : parent (join dir name) = normal dir := by
  rw [parent, components_join dir hsl hne hdot, List.dropLast_concat, normal]

/-- Two names placed in one directory are one path only when they are one name. -/
theorem normal_join_inj (dir : String) {other : String} (hsl : '/' ∉ name.toList)
    (hne : name ≠ "") (hdot : name ≠ ".") (hsl' : '/' ∉ other.toList) (hne' : other ≠ "")
    (hdot' : other ≠ ".") (h : normal (join dir name) = normal (join dir other)) :
    name = other := by
  rw [normal, normal, components_join dir hsl hne hdot, components_join dir hsl' hne' hdot'] at h
  by_cases hc : components dir = []
  · simpa [hc, String.intercalate_singleton] using h
  · rw [String.intercalate_append_of_ne_nil hc (List.cons_ne_nil _ _),
      String.intercalate_append_of_ne_nil hc (List.cons_ne_nil _ _),
      String.intercalate_singleton, String.intercalate_singleton] at h
    exact (String.append_right_inj _).1 h

/-- A path whose last character is neither a slash nor a dot ends at a name. -/
theorem pathEnd_of_last {path : String} {rest : List Char} {c : Char}
    (h : path.toList = rest ++ [c]) (hc : c ≠ '/') (hd : c ≠ '.') : pathEnd path = .name := by
  have hdrop : (c :: rest.reverse).dropWhile (· = '/') = c :: rest.reverse := by
    simp [hc]
  simp only [pathEnd, h, List.reverse_append, List.reverse_singleton, List.singleton_append,
    hdrop]
  split
  · simp_all
  · simp_all
  · simp

theorem pathEnd_join (dir : String) {rest : List Char} {c : Char}
    (h : name.toList = rest ++ [c]) (hc : c ≠ '/') (hd : c ≠ '.') :
    pathEnd (join dir name) = .name := by
  unfold join
  split_ifs
  · exact pathEnd_of_last h hc hd
  · exact pathEnd_of_last (show (dir ++ name).toList = (dir.toList ++ rest) ++ [c] by simp [h])
      hc hd
  · exact pathEnd_of_last
      (show (dir ++ "/" ++ name).toList = ((dir ++ "/").toList ++ rest) ++ [c] by simp [h]) hc hd

/-- No piece of a list cut at a separator holds the separator. -/
theorem not_mem_of_mem_splitOn {xs l : List Char} {x : Char} (h : l ∈ xs.splitOn x) :
    x ∉ l := by
  rw [List.splitOn_eq_splitOnP] at h
  induction xs generalizing l with
  | nil => simp_all
  | cons a xs ih =>
    rw [List.splitOnP_cons_eq_if_modifyHead] at h
    split at h
    · rcases List.mem_cons.1 h with rfl | h
      · simp
      · exact ih h
    · rename_i ha
      rcases hs : xs.splitOnP (· == x) with _ | ⟨l₀, ls⟩
      · exact absurd hs (List.splitOnP_ne_nil _ _)
      · rw [hs] at h ih
        rcases List.mem_cons.1 h with rfl | h
        · have hax : a ≠ x := by simpa using ha
          simpa [Ne.symm hax] using ih List.mem_cons_self
        · exact ih (List.mem_cons_of_mem _ h)

/-- A component of a path is a name: no slash, not empty, not a dot. -/
theorem mem_components {c path : String} (h : c ∈ components path) :
    '/' ∉ c.toList ∧ c ≠ "" ∧ c ≠ "." := by
  simp only [components, List.mem_filter, List.mem_map] at h
  obtain ⟨⟨l, hl, rfl⟩, hkeep⟩ := h
  refine ⟨by simpa using not_mem_of_mem_splitOn hl, by simpa using hkeep⟩

/-- A normal path has the components of the path it is made from. -/
theorem components_normal (path : String) : components (normal path) = components path := by
  by_cases h0 : components path = []
  · rw [normal, h0]
    rfl
  have hsplit : (normal path).toList.splitOn '/' = (components path).map String.toList := by
    rw [normal, String.toList_intercalate]
    exact List.splitOn_intercalate '/' (by simpa using fun c hc => (mem_components hc).1)
      (by simpa using h0)
  rw [components, hsplit, List.map_map]
  simpa using fun c hc => (mem_components hc).2

theorem normal_normal (path : String) : normal (normal path) = normal path := by
  rw [normal, components_normal]
  rfl

end Names

/-! ## Looking names up -/

section Lookup

variable (d : Disk)

theorem lookup_congr {p q : String} (h : normal p = normal q) : d.lookup p = d.lookup q := by
  simp only [lookup, h]

/-- A table with one key set in front: another key finds what it found before. -/
theorem find?_set_of_ne {α β : Type} [BEq α] [LawfulBEq α] {k i : α} (v : β)
    (xs : List (α × β)) (h : i ≠ k) :
    ((k, v) :: xs.filter (·.1 != k)).find? (·.1 == i) = xs.find? (·.1 == i) := by
  have hki : (k == i) = false := by simpa using Ne.symm h
  simp only [List.find?_cons, hki, List.find?_filter]
  congr 1
  funext x
  by_cases hx : x.1 = i
  · simp [hx, h]
  · simp [hx]

theorem lookup_bind (p : String) (e : Node) (q : String) :
    (d.bind p e).lookup q =
      if normal q = "" then some .dir else if normal q = normal p then some e else d.lookup q := by
  unfold lookup bind
  by_cases h0 : normal q = ""
  · simp [h0]
  · by_cases hq : normal q = normal p
    · simp [hq]
    · simp only [h0, hq, if_false, find?_set_of_ne _ _ hq]

theorem lookup_empty_path {q : String} (h : normal q = "") : d.lookup q = some .dir := by
  simp [lookup, h]

end Lookup

/-- Every name of one disk refers on another to what it referred to. -/
def Keeps (d d' : Disk) : Prop := ∀ q, d.lookup q ≠ none → d'.lookup q = d.lookup q

/-- Another disk, on which every name of the first keeps what it refers to, new names
refer to directories, and the files are the first's. -/
structure OnlyDirs (d d' : Disk) : Prop where
  keeps : Keeps d d'
  new : ∀ q, d.lookup q = none → d'.lookup q = none ∨ d'.lookup q = some .dir
  same : d' = { d with entries := d'.entries }

theorem Keeps.trans {d₁ d₂ d₃ : Disk} (h₁ : Keeps d₁ d₂) (h₂ : Keeps d₂ d₃) : Keeps d₁ d₃ :=
  fun q hq => by rw [h₂ q (by rw [h₁ q hq]; exact hq), h₁ q hq]

theorem OnlyDirs.refl (d : Disk) : OnlyDirs d d := ⟨fun _ _ => rfl, fun _ h => .inl h, rfl⟩

theorem OnlyDirs.trans {d₁ d₂ d₃ : Disk} (h₁ : OnlyDirs d₁ d₂) (h₂ : OnlyDirs d₂ d₃) :
    OnlyDirs d₁ d₃ := by
  refine ⟨h₁.keeps.trans h₂.keeps, fun q hq => ?_, ?_⟩
  · rcases h₁.new q hq with h | h
    · exact h₂.new q h
    · exact .inr (by rw [h₂.keeps q (by simp [h]), h])
  · rw [h₂.same, h₁.same]

theorem onlyDirs_bind_dir {d : Disk} {p : String} (hp : d.lookup p = none) :
    OnlyDirs d (d.bind p .dir) := by
  refine ⟨fun q hq => ?_, fun q hq => ?_, rfl⟩
  · rw [lookup_bind]
    split_ifs with h0 h1
    · exact (lookup_empty_path d h0).symm
    · exact absurd (hp ▸ lookup_congr d h1) hq
    · rfl
  · rw [lookup_bind]
    split_ifs
    · exact .inr rfl
    · exact .inr rfl
    · exact .inl hq

theorem mkdir_ok {p : String} {d d' : Disk} {u : Unit} (h : mkdir p d = .ok u d') :
    d.lookup p = none ∧ d' = d.bind p .dir := by
  rw [mkdir] at h
  change EStateM.bind EStateM.get _ d = _ at h
  simp only [EStateM.bind, EStateM.get] at h
  cases hp : d.lookup p with
  | some n =>
    simp only [hp] at h
    cases h
  | none =>
    -- the parent must be a directory for the directory to be made
    cases hq : d.lookup (parent p) with
    | none =>
      simp only [hp, hq] at h
      cases h
    | some n =>
      cases n <;> simp only [hp, hq] at h <;> cases h
      exact ⟨rfl, rfl⟩

/-! ## Making directories -/

/-- The directories on the way to a path, its prefixes of components, are directories. -/
def DirsAt (d : Disk) (path : String) : Prop :=
  ∀ k < (components path).length,
    d.lookup ("/".intercalate ((components path).take (k + 1))) = some .dir

theorem DirsAt.keeps {d d' : Disk} {path : String} (h : d.DirsAt path) (hd : Keeps d d') :
    d'.DirsAt path := fun k hk => by
  rw [hd _ (by simp [h k hk]), h k hk]

theorem dirsAt_normal {d : Disk} {path : String} : d.DirsAt (normal path) ↔ d.DirsAt path := by
  simp only [DirsAt, components_normal]

/-- A path whose directories are all there is a directory. -/
theorem DirsAt.lookup {d : Disk} {path : String} (h : d.DirsAt path) :
    d.lookup path = some .dir := by
  by_cases h0 : components path = []
  · exact lookup_empty_path d (by rw [normal, h0]; rfl)
  · have hlast := h ((components path).length - 1) (by
      have := List.length_pos_of_ne_nil h0
      omega)
    rw [Nat.sub_add_cancel (List.length_pos_of_ne_nil h0), List.take_length] at hlast
    rw [lookup_congr d (normal_normal path).symm]
    exact hlast

/-- A directory whose directories are there has them above every name placed in it. -/
theorem DirsAt.parent_join {d : Disk} {dir name : String} (h : d.DirsAt dir)
    (hsl : '/' ∉ name.toList) (hne : name ≠ "") (hdot : name ≠ ".") :
    d.DirsAt (parent (join dir name)) := by
  rw [Disk.parent_join dir hsl hne hdot]
  exact dirsAt_normal.2 h

section Go

variable {done rest : List String} {c : String} {d : Disk}

theorem go_dir (h : d.lookup ("/".intercalate (done ++ [c])) = some .dir) :
    createDirAll.go done (c :: rest) d = createDirAll.go (done ++ [c]) rest d := by
  rw [createDirAll.go]
  show EStateM.bind EStateM.get _ d = _
  simp only [EStateM.bind, EStateM.get, h]

theorem go_none (h : d.lookup ("/".intercalate (done ++ [c])) = none) :
    createDirAll.go done (c :: rest) d =
      EStateM.bind (mkdir ("/".intercalate (done ++ [c])))
        (fun _ => createDirAll.go (done ++ [c]) rest) d := by
  rw [createDirAll.go]
  show EStateM.bind EStateM.get _ d = _
  simp only [EStateM.bind, EStateM.get, h]
  rfl

theorem go_other {n : Node} (h : d.lookup ("/".intercalate (done ++ [c])) = some n)
    (hn : n ≠ .dir) :
    createDirAll.go done (c :: rest) d =
      .error (if rest.isEmpty then .exists else .notDirectory) d := by
  rw [createDirAll.go]
  show EStateM.bind EStateM.get _ d = _
  cases n with
  | dir => exact absurd rfl hn
  | file ino => simp only [EStateM.bind, EStateM.get, h]; rfl
  | full => simp only [EStateM.bind, EStateM.get, h]; rfl

end Go

theorem go_of_dirs (rest : List String) : ∀ (done : List String) (d : Disk),
    (∀ k < rest.length, d.lookup ("/".intercalate (done ++ rest.take (k + 1))) = some .dir) →
    createDirAll.go done rest d = .ok () d := by
  induction rest with
  | nil => intro done d _; rfl
  | cons c rest ih =>
    intro done d h
    rw [go_dir (by simpa using h 0 (by simp))]
    exact ih (done ++ [c]) d fun k hk => by simpa using h (k + 1) (by simpa using hk)

theorem go_ok (rest : List String) : ∀ (done : List String) (d d' : Disk),
    createDirAll.go done rest d = .ok () d' →
    OnlyDirs d d' ∧
      ∀ k < rest.length, d'.lookup ("/".intercalate (done ++ rest.take (k + 1))) = some .dir := by
  induction rest with
  | nil =>
    intro done d d' h
    cases h
    exact ⟨OnlyDirs.refl d, fun k hk => absurd hk (Nat.not_lt_zero k)⟩
  | cons c rest ih =>
    intro done d d' h
    -- the prefix is a directory already, or is made one before the rest is visited
    obtain ⟨d₁, hd₁, hp, hgo⟩ : ∃ d₁, OnlyDirs d d₁ ∧
        d₁.lookup ("/".intercalate (done ++ [c])) = some .dir ∧
        createDirAll.go (done ++ [c]) rest d₁ = .ok () d' := by
      cases hl : d.lookup ("/".intercalate (done ++ [c])) with
      | none =>
        rw [go_none hl] at h
        rcases hm : mkdir ("/".intercalate (done ++ [c])) d with ⟨u, d₁⟩ | ⟨e, d₁⟩ <;>
          simp only [EStateM.bind, hm] at h
        · obtain ⟨hnone, rfl⟩ := mkdir_ok hm
          exact ⟨_, onlyDirs_bind_dir hnone, lookup_bind_self _ _ _ (by
            intro h0
            rw [lookup_empty_path d h0] at hnone
            cases hnone), h⟩
        · cases h
      | some n =>
        by_cases hn : n = .dir
        · subst hn
          exact ⟨d, OnlyDirs.refl d, hl, by rwa [go_dir hl] at h⟩
        · rw [go_other hl hn] at h
          cases h
    obtain ⟨hd', hrest⟩ := ih (done ++ [c]) d₁ d' hgo
    refine ⟨hd₁.trans hd', fun k hk => ?_⟩
    cases k with
    | zero =>
      have hkeep := hd'.keeps ("/".intercalate (done ++ [c])) (by simp [hp])
      simpa [hkeep] using hp
    | succ k => simpa using hrest k (by simpa using hk)

/-- Making the directories of a path whose directories are there changes nothing. -/
theorem createDirAll_of_dirsAt {d : Disk} {path : String} (h : d.DirsAt path) :
    createDirAll path d = .ok () d :=
  go_of_dirs _ [] d fun k hk => by simpa using h k hk

/-- Making the directories of a path, when it succeeds, leaves them all directories and
has only given directories to names that had nothing. -/
theorem createDirAll_ok {d d' : Disk} {path : String} {u : Unit}
    (h : createDirAll path d = .ok u d') : OnlyDirs d d' ∧ d'.DirsAt path := by
  obtain ⟨hd, hdirs⟩ := go_ok _ [] d d' h
  exact ⟨hd, fun k hk => by simpa using hdirs k hk⟩

/-! ## Files -/

section Files

variable (d : Disk) (path : String)

theorem blob_setBlob_of_ne {ino i : Nat} (bs : Bytes) (h : i ≠ ino) :
    (d.setBlob ino bs).blob i = d.blob i := by
  simp only [blob, setBlob, find?_set_of_ne _ _ h]

/-- Writing a file changes no name. -/
theorem keeps_setBlob (ino : Nat) (bs : Bytes) : Keeps d (d.setBlob ino bs) := fun _ _ => rfl

theorem lookup_createFile (q : String) :
    (d.createFile path).1.lookup q =
      if normal q = "" then some .dir
      else if normal q = normal path then some (.file d.nextIno) else d.lookup q := by
  rw [createFile, lookup_bind]
  rfl

/-- Creating a file changes no other name. -/
theorem lookup_createFile_of_ne {q : String} (hq : normal q ≠ normal path) :
    (d.createFile path).1.lookup q = d.lookup q := by
  rw [lookup_createFile, if_neg hq]
  split_ifs with h0
  · exact (lookup_empty_path d h0).symm
  · rfl

theorem blob_createFile (i : Nat) :
    (d.createFile path).1.blob i = if i = d.nextIno then [] else d.blob i := by
  show (({ d with nextIno := d.nextIno + 1 }.setBlob d.nextIno []).bind path _).blob i = _
  split_ifs with h
  · subst h
    simp [bind, blob, setBlob]
  · exact blob_setBlob_of_ne _ _ h

@[simp] theorem nextIno_createFile : (d.createFile path).1.nextIno = d.nextIno + 1 := rfl

@[simp] theorem limited_createFile : (d.createFile path).1.limited = d.limited := rfl

/-- A file created under a name that had nothing leaves every other name as it was. -/
theorem keeps_createFile {d : Disk} {path : String} (h : d.lookup path = none) :
    Keeps d (d.createFile path).1 := fun _ hq =>
  -- a name with something under it is not the new file's
  lookup_createFile_of_ne d path fun hn => hq (h ▸ lookup_congr d hn)

end Files

section Open

variable {d d' : Disk} {path : String}

/-- Opening the name of a file for appending gives the file. -/
theorem openAppend_file {ino : Nat} (h : d.lookup path = some (.file ino))
    (he : pathEnd path = .name) : openAppend path d = .ok (.file ino) d := by
  rw [openAppend]
  show EStateM.bind EStateM.get _ d = _
  simp only [EStateM.bind, EStateM.get, he, h]
  rfl

/-- A directory does not open for appending. -/
theorem openAppend_dir (h : d.lookup path = some .dir) (he : pathEnd path = .name) :
    openAppend path d = .error .isDirectory d := by
  rw [openAppend]
  show EStateM.bind EStateM.get _ d = _
  simp only [EStateM.bind, EStateM.get, he, h]
  rfl

/-- Opening a name that holds nothing, in a directory that is there, creates an empty file
under it. -/
theorem openAppend_create (h : d.lookup path = none) (he : pathEnd path = .name)
    (hp : d.lookup (parent path) = some .dir) :
    openAppend path d = .ok (.file d.nextIno) (d.createFile path).1 := by
  rw [openAppend]
  show EStateM.bind EStateM.get _ d = _
  simp only [EStateM.bind, EStateM.get, he, h, hp]
  rfl

/-- Opening a name that holds nothing creates an empty file under it, in a directory that
must be there. -/
theorem openAppend_fresh {hd : Handle} (h : d.lookup path = none) (he : pathEnd path = .name)
    (hok : openAppend path d = .ok hd d') :
    d.lookup (parent path) = some .dir ∧ hd = .file d.nextIno ∧ d' = (d.createFile path).1 := by
  rw [openAppend] at hok
  change EStateM.bind EStateM.get _ d = _ at hok
  simp only [EStateM.bind, EStateM.get, he, h] at hok
  cases hp : d.lookup (parent path) with
  | none =>
    simp only [hp] at hok
    cases hok
  | some n =>
    cases n <;> simp only [hp] at hok <;> cases hok
    exact ⟨rfl, rfl, rfl⟩

end Open

end Disk
end ChangeLog
