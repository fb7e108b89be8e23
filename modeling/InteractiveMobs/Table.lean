/-!
# Tables

A table is a finite map kept as a list of entries in strictly increasing key order. The
order is part of the type, so listing a table lists its keys in order, and two tables with
the same look-ups are equal (`Table.ext_get?`).
-/

namespace InteractiveMobs
set_option autoImplicit false

universe u v w

/-- A finite map: every key once, in increasing order. -/
structure Table (κ : Type u) (α : Type v) [Ord κ] where
  entries : List (κ × α) := []
  sorted : entries.Pairwise (fun a b => compare a.1 b.1 = .lt) := by simp

namespace Table

variable {κ : Type u} {α : Type v} {β : Type w} [Ord κ]

instance : EmptyCollection (Table κ α) := ⟨{}⟩

instance : Inhabited (Table κ α) := ⟨∅⟩

/-- The value a list of entries gives to `key`: that of the first entry under it. -/
def findEntry (key : κ) : List (κ × α) → Option α
  | [] => none
  | (k, value) :: rest => if compare key k = .eq then some value else findEntry key rest

/-- The entries with `value` under `key`, put where the order wants it. -/
def insertEntry (key : κ) (value : α) : List (κ × α) → List (κ × α)
  | [] => [(key, value)]
  | (k, v) :: rest =>
    match compare key k with
    | .lt => (key, value) :: (k, v) :: rest
    | .eq => (key, value) :: rest
    | .gt => (k, v) :: insertEntry key value rest

/-- The value under `key`, if there is one. -/
def get? (table : Table κ α) (key : κ) : Option α := findEntry key table.entries

/-- Whether there is a value under `key`. -/
def contains (table : Table κ α) (key : κ) : Bool := (table.get? key).isSome

/-- The keys in increasing order. -/
def keys (table : Table κ α) : List κ := table.entries.map (·.1)

/-- The number of entries. -/
def size (table : Table κ α) : Nat := table.entries.length

/-- Whether there is no entry. -/
def isEmpty (table : Table κ α) : Bool := table.entries.isEmpty

/-- The table without the entry under `key`. -/
def erase (table : Table κ α) (key : κ) : Table κ α where
  entries := table.entries.filter fun e => compare key e.1 ≠ .eq
  sorted := table.sorted.filter _

/-- The table with every value replaced by its image. -/
def mapValues (table : Table κ α) (f : κ → α → β) : Table κ β where
  entries := table.entries.map fun e => (e.1, f e.1 e.2)
  sorted := table.sorted.map _ fun _ _ h => h

@[simp]
theorem get?_empty {key : κ} : (∅ : Table κ α).get? key = none := rfl

theorem mem_insertEntry {key : κ} {value : α} {e : κ × α} {entries : List (κ × α)}
    (h : e ∈ insertEntry key value entries) : e = (key, value) ∨ e ∈ entries := by
  induction entries with
  | nil => exact .inl (by simpa [insertEntry] using h)
  | cons head rest ih =>
    obtain ⟨k, v⟩ := head
    simp only [insertEntry] at h
    split at h
    · simpa using h
    · rcases List.mem_cons.1 h with h | h
      · exact .inl h
      · exact .inr (List.mem_cons_of_mem _ h)
    · rcases List.mem_cons.1 h with h | h
      · exact .inr (by simp [h])
      · exact (ih h).imp id (List.mem_cons_of_mem _)

variable [Std.LawfulEqOrd κ]

theorem findEntry_insertEntry [DecidableEq κ] {key other : κ} {value : α} {entries : List (κ × α)} :
    findEntry other (insertEntry key value entries) =
      if other = key then some value else findEntry other entries := by
  induction entries with
  | nil => simp [insertEntry, findEntry, Std.LawfulEqCmp.compare_eq_iff_eq]
  | cons head rest ih =>
    obtain ⟨k, v⟩ := head
    simp only [insertEntry]
    split
    next lt => simp [findEntry, Std.LawfulEqCmp.compare_eq_iff_eq]
    next eq =>
      obtain rfl := Std.LawfulEqCmp.eq_of_compare eq
      by_cases h : other = key <;> simp [findEntry, h, Std.LawfulEqCmp.compare_eq_iff_eq]
    next gt =>
      have ne : k ≠ key := by
        rintro rfl
        simp [Std.ReflCmp.compare_self] at gt
      by_cases h : other = k
      · subst h; simp [findEntry, ne]
      · simp [findEntry, h, Std.LawfulEqCmp.compare_eq_iff_eq, ih]

theorem findEntry_filter [DecidableEq κ] {key other : κ} {entries : List (κ × α)} :
    findEntry other (entries.filter fun e => compare key e.1 ≠ .eq) =
      if other = key then none else findEntry other entries := by
  induction entries with
  | nil => simp [findEntry]
  | cons head rest ih =>
    obtain ⟨k, v⟩ := head
    simp only [List.filter_cons, decide_not, Bool.not_eq_eq_eq_not, Bool.not_true,
      decide_eq_false_iff_not, Std.LawfulEqCmp.compare_eq_iff_eq] at ih ⊢
    by_cases hk : key = k
    · subst hk
      by_cases h : other = key <;> simp_all [findEntry]
    · by_cases h : other = k
      · subst h; simp [hk, findEntry, Ne.symm hk]
      · simp_all [findEntry, Std.LawfulEqCmp.compare_eq_iff_eq]

theorem mem_of_findEntry {entries : List (κ × α)} {key : κ} {value : α}
    (h : findEntry key entries = some value) : (key, value) ∈ entries := by
  induction entries with
  | nil => simp [findEntry] at h
  | cons head rest ih =>
    obtain ⟨k, v⟩ := head
    simp only [findEntry] at h
    split at h
    next eq =>
      obtain rfl := Std.LawfulEqCmp.eq_of_compare eq
      obtain rfl := Option.some.inj h
      exact List.mem_cons_self
    next => exact List.mem_cons_of_mem _ (ih h)

/-- Every entry listed is found under its key, if no other has the key. -/
theorem findEntry_of_mem {entries : List (κ × α)} {e : κ × α}
    (distinct : (entries.map (·.1)).Nodup) (he : e ∈ entries) :
    findEntry e.1 entries = some e.2 := by
  induction entries with
  | nil => cases he
  | cons head rest ih =>
    obtain ⟨absent, distinct⟩ := List.nodup_cons.1 distinct
    rcases List.mem_cons.1 he with rfl | he
    · simp [findEntry]
    · have ne : e.1 ≠ head.1 := fun same => absent (List.mem_map.2 ⟨e, he, same⟩)
      simp [findEntry, Std.LawfulEqCmp.compare_eq_iff_eq, ne, ih distinct he]

theorem nodup_keys (table : Table κ α) : table.keys.Nodup := by
  refine List.pairwise_map.2 (table.sorted.imp fun {a b} lt same => ?_)
  simp [same] at lt

theorem mem_entries_iff {table : Table κ α} {key : κ} {value : α} :
    (key, value) ∈ table.entries ↔ table.get? key = some value :=
  ⟨findEntry_of_mem table.nodup_keys, mem_of_findEntry⟩

theorem mem_keys_iff {table : Table κ α} {key : κ} :
    key ∈ table.keys ↔ ∃ value, table.get? key = some value := by
  rw [keys, List.mem_map]
  constructor
  · rintro ⟨⟨listed, value⟩, mem, rfl⟩
    exact ⟨value, mem_entries_iff.1 mem⟩
  · rintro ⟨value, found⟩
    exact ⟨(key, value), mem_entries_iff.2 found, rfl⟩

theorem get?_erase [DecidableEq κ] {table : Table κ α} {key other : κ} :
    (table.erase key).get? other = if other = key then none else table.get? other :=
  findEntry_filter

theorem get?_mapValues {table : Table κ α} {f : κ → α → β} {key : κ} :
    (table.mapValues f).get? key = (table.get? key).map (f key) := by
  unfold get? mapValues
  simp only
  induction table.entries with
  | nil => rfl
  | cons head rest ih =>
    obtain ⟨k, v⟩ := head
    by_cases h : compare key k = .eq
    · obtain rfl := Std.LawfulEqCmp.eq_of_compare h
      simp [findEntry]
    · simp [findEntry, h, ih]

theorem findEntry_eq_none [DecidableEq κ] {key : κ} {entries : List (κ × α)}
    (absent : key ∉ entries.map (·.1)) : findEntry key entries = none := by
  induction entries with
  | nil => rfl
  | cons head rest ih =>
    rw [List.map_cons, List.mem_cons, not_or] at absent
    simp [findEntry, Std.LawfulEqCmp.compare_eq_iff_eq, absent.1, ih absent.2]

variable [Std.TransOrd κ]

theorem sorted_insertEntry {key : κ} {value : α} {entries : List (κ × α)}
    (h : entries.Pairwise (fun a b => compare a.1 b.1 = .lt)) :
    (insertEntry key value entries).Pairwise (fun a b => compare a.1 b.1 = .lt) := by
  induction entries with
  | nil => simp [insertEntry]
  | cons head rest ih =>
    obtain ⟨k, v⟩ := head
    obtain ⟨below, tail⟩ := List.pairwise_cons.1 h
    simp only [insertEntry]
    split
    next lt =>
      refine List.pairwise_cons.2 ⟨fun e he => ?_, h⟩
      rcases List.mem_cons.1 he with rfl | he
      · exact lt
      · exact Std.TransCmp.lt_trans lt (below e he)
    next eq =>
      obtain rfl := Std.LawfulEqCmp.eq_of_compare eq
      exact List.pairwise_cons.2 ⟨below, tail⟩
    next gt =>
      refine List.pairwise_cons.2 ⟨fun e he => ?_, ih tail⟩
      rcases mem_insertEntry he with rfl | he
      · exact Std.OrientedCmp.lt_of_gt gt
      · exact below e he

/-- The table with `value` under `key`, whatever was there. -/
def insert (table : Table κ α) (key : κ) (value : α) : Table κ α where
  entries := insertEntry key value table.entries
  sorted := sorted_insertEntry table.sorted

/-- Both tables in one; where both have a key, `upper` decides. -/
def overlay (upper lower : Table κ α) : Table κ α :=
  upper.entries.foldl (fun table e => table.insert e.1 e.2) lower

/-- The table of a list of entries; of two under one key the later one counts. -/
def ofList (entries : List (κ × α)) : Table κ α :=
  entries.foldl (fun table e => table.insert e.1 e.2) ∅

theorem get?_insert [DecidableEq κ] {table : Table κ α} {key other : κ} {value : α} :
    (table.insert key value).get? other = if other = key then some value else table.get? other :=
  findEntry_insertEntry

theorem contains_insert [DecidableEq κ] {table : Table κ α} {key other : κ} {value : α} :
    (table.insert key value).contains other = (decide (other = key) || table.contains other) := by
  unfold contains
  rw [get?_insert]
  by_cases h : other = key <;> simp [h]

/-- Inserting entries with different keys: each key has what its entry gives, and the rest what
the table gave. -/
theorem get?_foldl_insert [DecidableEq κ] {entries : List (κ × α)}
    (distinct : (entries.map (·.1)).Nodup) (table : Table κ α) (key : κ) :
    (entries.foldl (fun table e => table.insert e.1 e.2) table).get? key =
      (findEntry key entries).or (table.get? key) := by
  induction entries generalizing table with
  | nil => rfl
  | cons head rest ih =>
    obtain ⟨k, v⟩ := head
    obtain ⟨absent, distinct⟩ := List.nodup_cons.1 distinct
    rw [List.foldl_cons, ih distinct, get?_insert]
    by_cases same : key = k
    · subst same
      simp [findEntry, findEntry_eq_none absent]
    · simp [findEntry, same, Std.LawfulEqCmp.compare_eq_iff_eq]

theorem get?_overlay [DecidableEq κ] {upper lower : Table κ α} {key : κ} :
    (upper.overlay lower).get? key = (upper.get? key).or (lower.get? key) :=
  get?_foldl_insert upper.nodup_keys lower key

theorem mem_keys_overlay [DecidableEq κ] {upper lower : Table κ α} {key : κ} :
    key ∈ (upper.overlay lower).keys ↔ key ∈ upper.keys ∨ key ∈ lower.keys := by
  rw [mem_keys_iff, mem_keys_iff, mem_keys_iff, get?_overlay]
  cases upper.get? key with
  | none => simp
  | some value => simp

/-- The table of entries with different keys has just these entries. -/
theorem get?_ofList [DecidableEq κ] {entries : List (κ × α)} {key : κ}
    (distinct : (entries.map (·.1)).Nodup) : (ofList entries).get? key = findEntry key entries := by
  rw [ofList, get?_foldl_insert distinct, get?_empty, Option.or_none]

omit [Std.LawfulEqOrd κ] in
theorem eq_of_mem_iff {l₁ l₂ : List (κ × α)}
    (h₁ : l₁.Pairwise (fun a b => compare a.1 b.1 = .lt))
    (h₂ : l₂.Pairwise (fun a b => compare a.1 b.1 = .lt))
    (same : ∀ e, e ∈ l₁ ↔ e ∈ l₂) : l₁ = l₂ := by
  induction l₁ generalizing l₂ with
  | nil =>
    cases l₂ with
    | nil => rfl
    | cons b _ => exact absurd ((same b).2 List.mem_cons_self) (by simp)
  | cons a rest₁ ih =>
    cases l₂ with
    | nil => exact absurd ((same a).1 List.mem_cons_self) (by simp)
    | cons b rest₂ =>
      obtain ⟨below₁, tail₁⟩ := List.pairwise_cons.1 h₁
      obtain ⟨below₂, tail₂⟩ := List.pairwise_cons.1 h₂
      have irrefl : ∀ c : κ × α, compare c.1 c.1 ≠ .lt := fun c => by simp
      have asymm : ∀ c d : κ × α, compare c.1 d.1 = .lt → compare d.1 c.1 ≠ .lt := fun c d h => by
        rw [Std.OrientedCmp.gt_of_lt h]; simp
      have head : a = b := by
        rcases List.mem_cons.1 ((same a).1 List.mem_cons_self) with h | h
        · exact h
        · rcases List.mem_cons.1 ((same b).2 List.mem_cons_self) with h' | h'
          · exact h'.symm
          · exact absurd (below₁ b h') (asymm b a (below₂ a h))
      subst head
      congr 1
      refine ih tail₁ tail₂ fun e => ⟨fun he => ?_, fun he => ?_⟩
      · rcases List.mem_cons.1 ((same e).1 (List.mem_cons_of_mem _ he)) with rfl | h
        · exact absurd (below₁ e he) (irrefl e)
        · exact h
      · rcases List.mem_cons.1 ((same e).2 (List.mem_cons_of_mem _ he)) with rfl | h
        · exact absurd (below₂ e he) (irrefl e)
        · exact h

/-- Tables with the same look-ups are equal. -/
theorem ext_get? {t₁ t₂ : Table κ α} (h : ∀ key, t₁.get? key = t₂.get? key) : t₁ = t₂ := by
  have entries : t₁.entries = t₂.entries :=
    eq_of_mem_iff t₁.sorted t₂.sorted fun ⟨key, value⟩ => by
      rw [mem_entries_iff, mem_entries_iff, h key]
  cases t₁; cases t₂; cases entries; rfl

end Table
end InteractiveMobs
