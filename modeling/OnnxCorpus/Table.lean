/-!
# Ordered tables

A table is a list of keys and values in strictly increasing order of the keys. `insert` keeps that
order (`Ordered.insert`) and replaces the value of a key that is already there, so a table depends
only on the value last set for each key (`lookup_insert`) and not on the order in which the keys
came. Inserting the entries of an ordered table one by one gives it back (`ofList_of_ordered`).
-/

namespace OnnxCorpus.Table

variable {κ ν : Type} [LT κ] [DecidableLT κ] [DecidableEq κ]

/-- Sets the value of a key, at its place in the order. -/
def insert (key : κ) (value : ν) : List (κ × ν) → List (κ × ν)
  | [] => [(key, value)]
  | (k, v) :: rest =>
    if key = k then (key, value) :: rest
    else if key < k then (key, value) :: (k, v) :: rest
    else (k, v) :: insert key value rest

omit [LT κ] [DecidableLT κ] in
/-- Removes a key and its value. -/
def erase (key : κ) (table : List (κ × ν)) : List (κ × ν) :=
  table.filter (·.1 ≠ key)

omit [LT κ] [DecidableLT κ] in
/-- The value of a key. -/
def lookup (key : κ) : List (κ × ν) → Option ν
  | [] => none
  | (k, v) :: rest => if key = k then some v else lookup key rest

/-- The keys and values of a list, a later value of a key replacing an earlier one. -/
def ofList (entries : List (κ × ν)) : List (κ × ν) :=
  entries.foldl (fun table entry => insert entry.1 entry.2 table) []

omit [DecidableLT κ] [DecidableEq κ] in
/-- The keys strictly increase. -/
def Ordered (table : List (κ × ν)) : Prop :=
  table.Pairwise fun a b => a.1 < b.1

instance (table : List (κ × ν)) : Decidable (Ordered table) :=
  inferInstanceAs (Decidable (table.Pairwise _))

theorem lookup_insert (key k : κ) (value : ν) (table : List (κ × ν)) :
    lookup k (insert key value table) = if k = key then some value else lookup k table := by
  induction table with
  | nil => simp [insert, lookup]
  | cons entry rest ih =>
    obtain ⟨l, v⟩ := entry
    by_cases h : key = l
    · subst h
      by_cases hk : k = key <;> simp [insert, lookup, hk]
    · by_cases hl : key < l
      · simp [insert, lookup, h, hl]
      · by_cases hk : k = l
        · subst hk
          simp [insert, lookup, h, hl, Ne.symm h]
        · simp [insert, lookup, h, hl, hk, ih]

/-- The value that was set last is the one that counts. -/
theorem insert_insert (key : κ) (old new : ν) (table : List (κ × ν)) :
    insert key new (insert key old table) = insert key new table := by
  induction table with
  | nil => simp [insert]
  | cons entry rest ih =>
    obtain ⟨k, v⟩ := entry
    by_cases same : key = k
    · simp [insert, same]
    · by_cases before : key < k
      · simp [insert, same, before]
      · simp [insert, same, before, ih]

/-- A key that is removed need not have been set. -/
theorem erase_insert (key : κ) (value : ν) (table : List (κ × ν)) :
    erase key (insert key value table) = erase key table := by
  unfold erase
  induction table with
  | nil => simp [insert]
  | cons entry rest ih =>
    obtain ⟨k, v⟩ := entry
    by_cases same : key = k
    · simp [insert, same]
    · by_cases before : key < k
      · simp [insert, same, before]
      · rw [insert, if_neg same, if_neg before, List.filter_cons, List.filter_cons, ih]

omit [LT κ] [DecidableLT κ] in
theorem mem_of_lookup_eq_some {key : κ} {value : ν} {table : List (κ × ν)}
    (h : lookup key table = some value) : (key, value) ∈ table := by
  induction table with
  | nil => cases h
  | cons entry rest ih =>
    obtain ⟨k, v⟩ := entry
    rw [lookup] at h
    split at h
    · next same =>
      obtain rfl := Option.some.inj h
      exact same ▸ List.mem_cons_self
    · exact List.mem_cons_of_mem _ (ih h)

theorem mem_insert {key : κ} {value : ν} {entry : κ × ν} {table : List (κ × ν)}
    (h : entry ∈ insert key value table) : entry = (key, value) ∨ entry ∈ table := by
  induction table with
  | nil => simpa [insert] using h
  | cons head rest ih =>
    obtain ⟨l, v⟩ := head
    simp only [insert] at h
    split at h
    · grind
    · split at h <;> grind

theorem mem_ofList {entry : κ × ν} {entries : List (κ × ν)} (h : entry ∈ ofList entries) :
    entry ∈ entries := by
  suffices inserted : ∀ table : List (κ × ν),
      entry ∈ entries.foldl (fun table entry => insert entry.1 entry.2 table) table →
        entry ∈ entries ∨ entry ∈ table by
    simpa using inserted [] h
  clear h
  induction entries with
  | nil => exact fun table found => .inr found
  | cons head rest ih =>
    intro table found
    rcases ih _ found with later | here
    · exact .inl (List.mem_cons_of_mem _ later)
    · rcases mem_insert here with rfl | before
      · exact .inl List.mem_cons_self
      · exact .inr before

section Order

variable [LE κ] [Std.LawfulOrderLT κ] [Std.IsLinearOrder κ]

/-- A key past all others goes to the end. -/
theorem insert_of_lt {key : κ} {value : ν} {table : List (κ × ν)}
    (past : ∀ entry ∈ table, entry.1 < key) :
    insert key value table = table ++ [(key, value)] := by
  induction table with
  | nil => rfl
  | cons head rest ih =>
    obtain ⟨k, v⟩ := head
    have hk : k < key := past (k, v) List.mem_cons_self
    have different : key ≠ k := (Std.ne_of_lt hk).symm
    have after : ¬key < k := Std.not_lt.2 (Std.le_of_lt hk)
    rw [insert, if_neg different, if_neg after,
      ih fun entry member => past entry (List.mem_cons_of_mem _ member), List.cons_append]

theorem Ordered.insert {key : κ} {value : ν} {table : List (κ × ν)} (ordered : Ordered table) :
    Ordered (insert key value table) := by
  induction table with
  | nil => exact List.pairwise_singleton _ _
  | cons head rest ih =>
    obtain ⟨k, v⟩ := head
    obtain ⟨first, others⟩ := List.pairwise_cons.1 ordered
    rw [Table.insert]
    split
    · next same =>
      subst same
      exact List.pairwise_cons.2 ⟨first, others⟩
    · next different =>
      split
      · next before =>
        refine List.pairwise_cons.2 ⟨?_, ordered⟩
        exact List.forall_mem_cons.2 ⟨before, fun e member => Std.lt_trans before (first e member)⟩
      · next after =>
        have past : k < key :=
          Std.lt_of_le_of_ne (Std.not_lt.1 after) (Ne.symm different)
        refine List.pairwise_cons.2 ⟨fun e member => ?_, ih others⟩
        rcases mem_insert member with rfl | member
        · exact past
        · exact first e member

theorem ordered_ofList (entries : List (κ × ν)) : Ordered (ofList entries) := by
  suffices inserted : ∀ table : List (κ × ν), Ordered table →
      Ordered (entries.foldl (fun table entry => Table.insert entry.1 entry.2 table) table) from
    inserted [] List.Pairwise.nil
  induction entries with
  | nil => exact fun table ordered => ordered
  | cons entry rest ih => exact fun table ordered => ih _ ordered.insert

theorem foldl_insert_of_ordered {before after : List (κ × ν)}
    (ordered : Ordered (before ++ after)) :
    after.foldl (fun table entry => insert entry.1 entry.2 table) before = before ++ after := by
  induction after generalizing before with
  | nil => simp
  | cons entry rest ih =>
    have past : ∀ other ∈ before, other.1 < entry.1 := fun other member =>
      (List.pairwise_append.1 ordered).2.2 other member entry List.mem_cons_self
    rw [List.foldl_cons, insert_of_lt past, ih (by simpa using ordered)]
    simp

theorem ofList_of_ordered {table : List (κ × ν)} (ordered : Ordered table) :
    ofList table = table :=
  foldl_insert_of_ordered (show Ordered ([] ++ table) from ordered)

end Order

end OnnxCorpus.Table
