import DialogueScript.Text.Basic

/-!
# Tables

Finite maps from texts, in ascending order of their keys. The order is that of code points, which
is also the order of the bytes in UTF-8.

Main statements: `get?_insert_self` and `get?_insert_ne` (inserting sets one key and no other),
`mem_entries_iff` (the entries are what looking up finds), `Table.ext_get?` (tables that look alike
are equal) and `ofList_entries` (a table is the table of its entries).
-/

namespace DialogueScript

/-- A finite map from texts to `α`. -/
structure Table (α : Type) where
  entries : List (Text × α)
  ascending : entries.Pairwise fun a b => a.1 < b.1

namespace Table

variable {α : Type}

theorem lt_or_eq_or_gt (a b : Text) : a < b ∨ a = b ∨ b < a := by
  by_cases h : a < b
  · exact .inl h
  · by_cases h' : b < a
    · exact .inr (.inr h')
    · exact .inr (.inl (List.le_antisymm (List.not_lt.mp h') (List.not_lt.mp h)))

/-- Puts an entry where its key belongs, in place of one with the same key. -/
def insertEntry (key : Text) (value : α) : List (Text × α) → List (Text × α)
  | [] => [(key, value)]
  | entry :: rest =>
    if key < entry.1 then (key, value) :: entry :: rest
    else if key = entry.1 then (key, value) :: rest
    else entry :: insertEntry key value rest

theorem mem_insertEntry {key : Text} {value : α} {entries : List (Text × α)} {entry : Text × α}
    (h : entry ∈ insertEntry key value entries) : entry = (key, value) ∨ entry ∈ entries := by
  induction entries with
  | nil => simp_all [insertEntry]
  | cons first rest ih =>
    simp only [insertEntry] at h
    split at h
    · simp_all
    · split at h
      · simp only [List.mem_cons] at h ⊢
        rcases h with h | h
        · exact .inl h
        · exact .inr (.inr h)
      · simp only [List.mem_cons] at h ⊢
        rcases h with h | h
        · exact .inr (.inl h)
        · rcases ih h with h | h
          · exact .inl h
          · exact .inr (.inr h)

theorem pairwise_insertEntry (key : Text) (value : α) {entries : List (Text × α)}
    (h : entries.Pairwise fun a b => a.1 < b.1) :
    (insertEntry key value entries).Pairwise fun a b => a.1 < b.1 := by
  induction entries with
  | nil => simp [insertEntry]
  | cons first rest ih =>
    obtain ⟨hfirst, hrest⟩ := List.pairwise_cons.mp h
    simp only [insertEntry]
    split
    · rename_i hlt
      refine List.pairwise_cons.mpr ⟨?_, h⟩
      intro entry he
      rcases List.mem_cons.mp he with rfl | he
      · exact hlt
      · exact List.lt_trans hlt (hfirst entry he)
    · split
      · rename_i heq
        exact List.pairwise_cons.mpr ⟨fun entry he => heq ▸ hfirst entry he, hrest⟩
      · rename_i hnlt hne
        refine List.pairwise_cons.mpr ⟨?_, ih hrest⟩
        -- the new key belongs behind the first entry, somewhere in the rest
        intro entry he
        rcases mem_insertEntry he with rfl | he
        · rcases lt_or_eq_or_gt key first.1 with hl | hl | hl
          · exact absurd hl hnlt
          · exact absurd hl hne
          · exact hl
        · exact hfirst entry he

/-- The table without entries. -/
def empty : Table α := ⟨[], .nil⟩

/-- Sets the value of a key. -/
def insert (table : Table α) (key : Text) (value : α) : Table α :=
  ⟨insertEntry key value table.entries, pairwise_insertEntry key value table.ascending⟩

/-- The value of a key. -/
def get? (table : Table α) (key : Text) : Option α :=
  (table.entries.find? fun entry => entry.1 == key).map (·.2)

/-- Has the key a value? -/
def contains (table : Table α) (key : Text) : Bool := (table.get? key).isSome

/-- The keys, ascending. -/
def keys (table : Table α) : List Text := table.entries.map (·.1)

/-- The values, in the order of their keys. -/
def values (table : Table α) : List α := table.entries.map (·.2)

/-- The number of entries. -/
def size (table : Table α) : Nat := table.entries.length

/-- The table of entries in any order; of two with one key the later counts. -/
def ofList (entries : List (Text × α)) : Table α :=
  entries.foldl (fun table entry => table.insert entry.1 entry.2) empty

@[simp] theorem get?_empty (key : Text) : (empty : Table α).get? key = none := rfl

theorem find?_insertEntry (key : Text) (value : α) (entries : List (Text × α)) (other : Text) :
    ((insertEntry key value entries).find? fun entry => entry.1 == other).map (·.2) =
      if key = other then some value
      else (entries.find? fun entry => entry.1 == other).map (·.2) := by
  induction entries with
  | nil => by_cases h : key = other <;> simp [insertEntry, h]
  | cons first rest ih =>
    simp only [insertEntry]
    split
    · by_cases h : key = other <;> simp [h]
    · split
      · rename_i heq
        by_cases h : key = other
        · simp [h]
        · simp [h, ← heq]
      · rename_i hne
        by_cases hf : first.1 = other
        · have : key ≠ other := fun h => hne (h.trans hf.symm)
          simp [hf, this]
        · simp only [List.find?_cons, beq_eq_false_iff_ne.mpr hf]
          exact ih

@[simp] theorem get?_insert (table : Table α) (key : Text) (value : α) (other : Text) :
    (table.insert key value).get? other = if key = other then some value else table.get? other :=
  find?_insertEntry key value table.entries other

theorem get?_insert_self (table : Table α) (key : Text) (value : α) :
    (table.insert key value).get? key = some value := by simp

theorem get?_insert_ne (table : Table α) {key other : Text} (value : α) (h : key ≠ other) :
    (table.insert key value).get? other = table.get? other := by simp [h]

theorem mem_entries_iff {table : Table α} {key : Text} {value : α} :
    (key, value) ∈ table.entries ↔ table.get? key = some value := by
  obtain ⟨entries, ascending⟩ := table
  simp only [get?]
  induction entries with
  | nil => simp
  | cons first rest ih =>
    obtain ⟨hfirst, hrest⟩ := List.pairwise_cons.mp ascending
    by_cases hk : first.1 = key
    · -- keys ascend, so the key does not occur again
      have hnot : ∀ v, (key, v) ∉ rest := fun v hv => by
        have := hfirst _ hv
        rw [hk] at this
        exact List.lt_irrefl _ this
      obtain ⟨k, v⟩ := first
      simp only at hk
      subst hk
      simp only [List.mem_cons, Prod.mk.injEq, true_and, hnot value, or_false, List.find?_cons,
        BEq.rfl, Option.map_some, Option.some.injEq]
      exact eq_comm
    · have hne : (key, value) ≠ first := fun h => hk (by rw [← h])
      simp only [List.mem_cons, hne, false_or, List.find?_cons, beq_eq_false_iff_ne.mpr hk]
      exact ih hrest

theorem nodup_keys (table : Table α) : table.keys.Nodup := by
  rw [keys, List.nodup_iff_pairwise_ne, List.pairwise_map]
  exact table.ascending.imp fun {a b} (h : a.1 < b.1) heq => List.lt_irrefl b.1 (heq ▸ h)

theorem mem_keys_iff {table : Table α} {key : Text} :
    key ∈ table.keys ↔ table.contains key = true := by
  rw [contains, Option.isSome_iff_exists, keys, List.mem_map]
  constructor
  · rintro ⟨⟨_, value⟩, hmem, rfl⟩
    exact ⟨value, mem_entries_iff.mp hmem⟩
  · rintro ⟨value, hvalue⟩
    exact ⟨(key, value), mem_entries_iff.mpr hvalue, rfl⟩

theorem mem_values_iff {table : Table α} {value : α} :
    value ∈ table.values ↔ ∃ key, table.get? key = some value := by
  rw [values, List.mem_map]
  constructor
  · rintro ⟨⟨key, _⟩, hmem, rfl⟩
    exact ⟨key, mem_entries_iff.mp hmem⟩
  · rintro ⟨key, hkey⟩
    exact ⟨(key, value), mem_entries_iff.mpr hkey, rfl⟩

theorem mem_keys_insert {table : Table α} {key other : Text} {value : α} :
    other ∈ (table.insert key value).keys ↔ other = key ∨ other ∈ table.keys := by
  rw [mem_keys_iff, mem_keys_iff, contains, contains, get?_insert]
  split
  next h => simp [h]
  next h => simp [Ne.symm h]

theorem mem_keys_ofList {entries : List (Text × α)} {key : Text} :
    key ∈ (ofList entries).keys ↔ key ∈ entries.map (·.1) := by
  -- inserting goes from the left, so the table so far is what the induction generalizes
  suffices ∀ table : Table α, key ∈ (entries.foldl (fun table entry =>
      table.insert entry.1 entry.2) table).keys ↔ key ∈ table.keys ∨ key ∈ entries.map (·.1) by
    simpa [ofList, keys, empty] using this empty
  induction entries with
  | nil => simp
  | cons entry rest ih =>
    intro table
    rw [List.foldl_cons, ih, mem_keys_insert, List.map_cons, List.mem_cons]
    grind

theorem ext_get? {s t : Table α} (h : ∀ key, s.get? key = t.get? key) : s = t := by
  have hmem : ∀ entry, entry ∈ s.entries ↔ entry ∈ t.entries := fun entry => by
    rw [show entry = (entry.1, entry.2) from rfl, mem_entries_iff, mem_entries_iff, h]
  obtain ⟨a, ha⟩ := s
  obtain ⟨b, hb⟩ := t
  suffices a = b by subst this; rfl
  simp only at hmem
  clear h
  -- both lists ascend, so they agree from the first entry on
  induction a generalizing b with
  | nil =>
    cases b with
    | nil => rfl
    | cons y ys => exact absurd ((hmem y).mpr (by simp)) (by simp)
  | cons x xs ih =>
    cases b with
    | nil => exact absurd ((hmem x).mp (by simp)) (by simp)
    | cons y ys =>
      obtain ⟨hx, hxs⟩ := List.pairwise_cons.mp ha
      obtain ⟨hy, hys⟩ := List.pairwise_cons.mp hb
      -- each first entry occurs in the other list, and neither can occur later
      have hxy : x = y := by
        rcases List.mem_cons.mp ((hmem x).mp (by simp)) with h | h
        · exact h
        · rcases List.mem_cons.mp ((hmem y).mpr (by simp)) with h' | h'
          · exact h'.symm
          · exact absurd (List.lt_trans (hx _ h') (hy _ h)) (List.lt_irrefl _)
      subst hxy
      rw [ih hxs ys hys]
      intro entry
      constructor
      · intro he
        rcases List.mem_cons.mp ((hmem entry).mp (List.mem_cons_of_mem _ he)) with h | h
        · subst h
          exact absurd (hx _ he) (List.lt_irrefl _)
        · exact h
      · intro he
        rcases List.mem_cons.mp ((hmem entry).mpr (List.mem_cons_of_mem _ he)) with h | h
        · subst h
          exact absurd (hy _ he) (List.lt_irrefl _)
        · exact h

theorem insert_insert (table : Table α) (key : Text) (value later : α) :
    (table.insert key value).insert key later = table.insert key later := by
  refine ext_get? fun other => ?_
  simp only [get?_insert]
  split <;> rfl

theorem insertEntry_of_forall_lt {key : Text} (value : α) {entries : List (Text × α)}
    (h : ∀ entry ∈ entries, entry.1 < key) :
    insertEntry key value entries = entries ++ [(key, value)] := by
  induction entries with
  | nil => rfl
  | cons first rest ih =>
    obtain ⟨hfirst, hrest⟩ := List.forall_mem_cons.mp h
    have hne : key ≠ first.1 := fun heq => List.lt_irrefl key (heq ▸ hfirst)
    rw [insertEntry, if_neg (List.lt_asymm hfirst), if_neg hne, ih hrest, List.cons_append]

theorem ext_entries {s t : Table α} (h : s.entries = t.entries) : s = t := by
  obtain ⟨entries, ascending⟩ := s
  cases h
  rfl

/-- Entries behind all others are appended in their order. -/
theorem entries_foldl_insert {table : Table α} {entries : List (Text × α)}
    (h : (table.entries ++ entries).Pairwise fun a b => a.1 < b.1) :
    (entries.foldl (fun table entry => table.insert entry.1 entry.2) table).entries
      = table.entries ++ entries := by
  induction entries generalizing table with
  | nil => simp
  | cons entry rest ih =>
    have hlast : ∀ earlier ∈ table.entries, earlier.1 < entry.1 := fun earlier hearlier =>
      (List.pairwise_append.mp h).2.2 earlier hearlier entry (List.mem_cons_self ..)
    have hinsert : (table.insert entry.1 entry.2).entries = table.entries ++ [entry] :=
      insertEntry_of_forall_lt entry.2 hlast
    have happend : table.entries ++ entry :: rest
        = (table.insert entry.1 entry.2).entries ++ rest := by
      rw [hinsert, List.append_assoc, List.singleton_append]
    rw [happend] at h ⊢
    exact ih h

/-- A table is the table of its entries. -/
theorem ofList_entries (table : Table α) : ofList table.entries = table := by
  have hbehind : ((empty : Table α).entries ++ table.entries).Pairwise fun a b => a.1 < b.1 :=
    table.ascending
  exact ext_entries (entries_foldl_insert hbehind)

instance [DecidableEq α] : DecidableEq (Table α) := fun s t =>
  if h : s.entries = t.entries then
    isTrue (ext_entries h)
  else isFalse fun he => h (by rw [he])

end Table

end DialogueScript
