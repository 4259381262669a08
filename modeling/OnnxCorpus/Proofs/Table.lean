import Mathlib.Data.List.Induction
import OnnxCorpus.Proofs.Fallible
import OnnxCorpus.Table

/-!
# Tables and the entries they are made of

Of the entries that a table is made of, the last of each key is kept, and nothing else
(`Table.ofList_eq_iff`).
-/

namespace OnnxCorpus

/-- An element of a list that meets a condition, with nothing after it that does. -/
def LastOf {α : Type} (p : α → Prop) (xs : List α) (x : α) : Prop :=
  ∃ before after, xs = before ++ x :: after ∧ p x ∧ ∀ y ∈ after, ¬p y

section

variable {α β : Type} {p : α → Prop} {x y : α} {xs ys : List α}

theorem LastOf.mem (last : LastOf p xs x) : x ∈ xs := by
  obtain ⟨before, after, rfl, -⟩ := last
  simp

theorem LastOf.meets (last : LastOf p xs x) : p x := by
  obtain ⟨_, _, -, here, -⟩ := last
  exact here

@[simp] theorem not_lastOf_nil : ¬LastOf p [] x := fun last => List.not_mem_nil last.mem

theorem lastOf_cons_iff :
    LastOf p (y :: xs) x ↔ LastOf p xs x ∨ (x = y ∧ p x ∧ ∀ z ∈ xs, ¬p z) := by
  constructor
  · rintro ⟨_ | ⟨z, before⟩, after, split, here, none⟩
    · obtain ⟨rfl, rfl⟩ := List.cons.inj split
      exact .inr ⟨rfl, here, none⟩
    · obtain ⟨rfl, rfl⟩ := List.cons.inj split
      exact .inl ⟨before, after, rfl, here, none⟩
  · rintro (⟨before, after, rfl, here, none⟩ | ⟨rfl, here, none⟩)
    · exact ⟨y :: before, after, rfl, here, none⟩
    · exact ⟨[], xs, rfl, here, none⟩

theorem lastOf_append_iff :
    LastOf p (xs ++ ys) x ↔ LastOf p ys x ∨ (LastOf p xs x ∧ ∀ z ∈ ys, ¬p z) := by
  induction xs with
  | nil => simp
  | cons y xs ih =>
    rw [List.cons_append, lastOf_cons_iff, lastOf_cons_iff, ih, List.forall_mem_append]
    grind

theorem LastOf.unique (last : LastOf p xs x) (last' : LastOf p xs y) : x = y := by
  induction xs with
  | nil => exact absurd last not_lastOf_nil
  | cons z xs ih =>
    rcases lastOf_cons_iff.1 last with inside | ⟨rfl, here, none⟩ <;>
      rcases lastOf_cons_iff.1 last' with inside' | ⟨rfl, here', none'⟩
    · exact ih inside inside'
    · obtain ⟨_, _, rfl, here, -⟩ := inside
      exact absurd here (none' x (by simp))
    · obtain ⟨_, _, rfl, here', -⟩ := inside'
      exact absurd here' (none y (by simp))
    · rfl

theorem exists_lastOf (met : ∃ x ∈ xs, p x) : ∃ y, LastOf p xs y := by
  induction xs with
  | nil => exact absurd met (by simp)
  | cons z xs ih =>
    by_cases later : ∃ x ∈ xs, p x
    · obtain ⟨y, last⟩ := ih later
      exact ⟨y, lastOf_cons_iff.2 (.inl last)⟩
    · obtain ⟨x, member, here⟩ := met
      rcases List.mem_cons.1 member with rfl | among
      · refine ⟨x, lastOf_cons_iff.2 (.inr ⟨rfl, here, fun w among meets => later ?_⟩)⟩
        exact ⟨w, among, meets⟩
      · exact absurd ⟨x, among, here⟩ later

theorem getLast?_filterMap_eq_some_iff {f : α → Option β} {b : β} :
    (xs.filterMap f).getLast? = some b ↔ ∃ x, LastOf (∃ c, f · = some c) xs x ∧ f x = some b := by
  rw [List.getLast?_filterMap, List.findSome?_eq_some_iff]
  constructor
  · rintro ⟨after, x, before, split, found, none⟩
    refine ⟨x, ⟨before.reverse, after.reverse, ?_, ⟨b, found⟩, fun y member => ?_⟩, found⟩
    · simpa using congrArg List.reverse split
    · simp [none y (List.mem_reverse.1 member)]
  · rintro ⟨x, ⟨before, after, rfl, -, none⟩, found⟩
    refine ⟨after.reverse, x, before.reverse, by simp, found, fun y member => ?_⟩
    exact Option.eq_none_iff_forall_ne_some.2 fun c held =>
      none y (List.mem_reverse.1 member) ⟨c, held⟩

/-- The last of a list stands where the last of a list beside it stands. -/
theorem LastOf.of_forall₂ {q : β → Prop} {R : α → β → Prop} {zs : List β} {z : β}
    (pairs : List.Forall₂ R xs zs) (same : ∀ x z, R x z → (p x ↔ q z)) (last : LastOf q zs z) :
    ∃ x, LastOf p xs x ∧ R x z := by
  induction pairs with
  | nil => exact absurd last not_lastOf_nil
  | @cons x y xs zs here pairs ih =>
    rcases lastOf_cons_iff.1 last with later | ⟨rfl, meets, none⟩
    · obtain ⟨w, found, pair⟩ := ih later
      exact ⟨w, lastOf_cons_iff.2 (.inl found), pair⟩
    · have none' : ∀ w ∈ xs, ¬p w := by
        intro w member
        obtain ⟨v, among, pair⟩ := Fallible.exists_mem_of_forall₂ pairs.flip member
        exact fun meets => none v among ((same w v pair).1 meets)
      exact ⟨x, lastOf_cons_iff.2 (.inr ⟨rfl, (same _ _ here).2 meets, none'⟩), here⟩

end

namespace Table

variable {κ ν : Type} [LT κ] [DecidableLT κ] [DecidableEq κ]

/-- A key is looked up as the last value that was set for it. -/
theorem lookup_ofList_eq_some_iff {key : κ} {value : ν} {entries : List (κ × ν)} :
    lookup key (ofList entries) = some value ↔ LastOf (·.1 = key) entries (key, value) := by
  induction entries using List.reverseRecOn with
  | nil => simp [ofList, lookup]
  | append_singleton entries entry ih =>
    have step : ofList (entries ++ [entry]) = insert entry.1 entry.2 (ofList entries) := by
      rw [ofList, List.foldl_append]
      rfl
    rw [step, lookup_insert, lastOf_append_iff, lastOf_cons_iff]
    obtain ⟨k, v⟩ := entry
    by_cases same : key = k
    · subst same
      simp [eq_comm]
    · simp [same, Ne.symm same, ih]

section Order

variable [LE κ] [Std.LawfulOrderLT κ] [Std.IsLinearOrder κ]

omit [DecidableLT κ] [Std.IsLinearOrder κ] in
theorem Ordered.lookup_eq_some_iff {key : κ} {value : ν} {table : List (κ × ν)}
    (ordered : Ordered table) : lookup key table = some value ↔ (key, value) ∈ table := by
  refine ⟨mem_of_lookup_eq_some, fun member => ?_⟩
  induction table with
  | nil => cases member
  | cons head rest ih =>
    obtain ⟨k, v⟩ := head
    obtain ⟨first, others⟩ := List.pairwise_cons.1 ordered
    rcases List.mem_cons.1 member with same | later
    · obtain ⟨rfl, rfl⟩ := Prod.mk.inj same
      rw [lookup, if_pos rfl]
    · have different : key ≠ k := (Std.ne_of_lt (first _ later)).symm
      rw [lookup, if_neg different, ih others later]

omit [DecidableLT κ] [DecidableEq κ] in
theorem Ordered.eq_of_mem_iff {table other : List (κ × ν)} (ordered : Ordered table)
    (ordered' : Ordered other) (same : ∀ entry, entry ∈ table ↔ entry ∈ other) :
    table = other := by
  have nodup {t : List (κ × ν)} (ordered : Ordered t) : t.Nodup :=
    ordered.imp (S := (· ≠ ·)) fun before equal => Std.lt_irrefl (equal ▸ before)
  have perm := (List.perm_ext_iff_of_nodup (nodup ordered) (nodup ordered')).2 same
  exact perm.eq_of_pairwise
    (fun a b _ _ before after => absurd (Std.lt_trans before after) Std.lt_irrefl) ordered ordered'

/-- A table made of entries has the last entry of each of their keys. -/
theorem mem_ofList_iff {entry : κ × ν} {entries : List (κ × ν)} :
    entry ∈ ofList entries ↔ LastOf (·.1 = entry.1) entries entry := by
  rw [← lookup_ofList_eq_some_iff, (ordered_ofList entries).lookup_eq_some_iff]

theorem Ordered.foldl_insert_eq {table : List (κ × ν)} (ordered : Ordered table)
    (entries : List (κ × ν)) :
    entries.foldl (fun table entry => Table.insert entry.1 entry.2 table) table =
      ofList (table ++ entries) := by
  have made : ofList (table ++ entries) =
      entries.foldl (fun table entry => Table.insert entry.1 entry.2 table) (ofList table) :=
    List.foldl_append
  rw [made, ofList_of_ordered ordered]

/-- The table made of entries is the ordered one that has the last entry of each of their keys. -/
theorem ofList_eq_iff {entries table : List (κ × ν)} :
    ofList entries = table ↔
      Ordered table ∧ (∀ entry ∈ table, LastOf (·.1 = entry.1) entries entry) ∧
        ∀ entry ∈ entries, ∃ value, (entry.1, value) ∈ table := by
  constructor
  · rintro rfl
    refine ⟨ordered_ofList entries, fun entry => mem_ofList_iff.1, fun entry member => ?_⟩
    obtain ⟨⟨key, value⟩, last⟩ :=
      exists_lastOf (p := fun other => other.1 = entry.1) ⟨entry, member, rfl⟩
    obtain rfl : key = entry.1 := last.meets
    exact ⟨value, mem_ofList_iff.2 last⟩
  · rintro ⟨ordered, kept, all⟩
    refine (ordered_ofList entries).eq_of_mem_iff ordered fun entry => ?_
    rw [mem_ofList_iff]
    refine ⟨fun last => ?_, kept entry⟩
    obtain ⟨value, member⟩ := all entry last.mem
    have same : entry = (entry.1, value) := last.unique (kept (entry.1, value) member)
    rwa [same]

end Order
end Table
end OnnxCorpus
