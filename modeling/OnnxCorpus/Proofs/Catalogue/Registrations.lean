import OnnxCorpus.Proofs.Catalogue.Indexed
import Mathlib.Data.Finset.Card

/-!
# What calls of `register` leave

`Catalogue.after` is the catalogue after any number of calls, of which some may have been refused.
`Catalogue.Shows` says everything that can be seen of it in terms of the calls: the first call with
a name is the one that counts. A catalogue with an index goes through the same states
(`register_after`).
-/

namespace OnnxCorpus

variable {β : Type}

namespace Catalogue

/-- The catalogue after calls of `register`, from the empty one. A refused call leaves what there
was. -/
def after (calls : List (String × β)) : Catalogue β :=
  calls.foldl (fun c call => (c.register call.1 call.2).toOption.getD c) {}

/-- What is seen of a catalogue that these calls of `register` made. -/
structure Shows (calls : List (String × β)) (c : Catalogue β) : Prop where
  once : c.names.Nodup
  all : ∀ name, name ∈ c.names ↔ name ∈ calls.map Prod.fst
  inOrder : c.names.Pairwise fun m n =>
    (calls.map Prod.fst).idxOf m < (calls.map Prod.fst).idxOf n
  aligned : ∀ place : Nat, c.names[place]? = c.fixtures[place]?.map Fixture.name
  size : c.size = (calls.map Prod.fst).toFinset.card
  isEmpty : c.isEmpty = true ↔ calls = []
  found : ∀ before name builder rest, calls = before ++ (name, builder) :: rest →
    name ∉ before.map Prod.fst → c.get? name = some ⟨name, builder⟩
  absent : ∀ name, c.get? name = none ↔ name ∉ calls.map Prod.fst

theorem after_concat (calls : List (String × β)) (name : String) (builder : β) :
    after (calls ++ [(name, builder)]) =
      if name ∈ (after calls).names then after calls
      else ⟨(after calls).fixtures ++ [⟨name, builder⟩]⟩ := by
  unfold after
  rw [List.foldl_concat, register_eq]
  split
  · rfl
  · rfl

theorem mem_names_after (calls : List (String × β)) (name : String) :
    name ∈ (after calls).names ↔ name ∈ calls.map Prod.fst := by
  induction calls using List.reverseRecOn with
  | nil => simp [after, names]
  | append_singleton calls call ih =>
    obtain ⟨n, builder⟩ := call
    rw [after_concat, List.map_append, List.mem_append, ← ih]
    split
    · next taken =>
      constructor
      · exact Or.inl
      · rintro (before | last)
        · exact before
        · rw [List.map_singleton, List.mem_singleton] at last
          rwa [last]
    · simp [names]

theorem registered_after (calls : List (String × β)) : (after calls).Registered := by
  induction calls using List.reverseRecOn with
  | nil => exact .empty
  | append_singleton calls call ih =>
    obtain ⟨name, builder⟩ := call
    rw [after_concat]
    split
    · exact ih
    · next new => exact .register ih (register_eq_ok_iff.2 ⟨new, rfl⟩)

/-- A name stands after the names that were called before it. -/
theorem pairwise_names_after (calls : List (String × β)) :
    (after calls).names.Pairwise fun m n =>
      (calls.map Prod.fst).idxOf m < (calls.map Prod.fst).idxOf n := by
  induction calls using List.reverseRecOn with
  | nil => exact List.Pairwise.nil
  | append_singleton calls call ih =>
    obtain ⟨name, builder⟩ := call
    -- a later call does not move the first one with a name
    have kept {n : String} (member : n ∈ (after calls).names) :
        ((calls ++ [(name, builder)]).map Prod.fst).idxOf n = (calls.map Prod.fst).idxOf n := by
      rw [List.map_append]
      exact List.idxOf_append_of_mem ((mem_names_after calls n).1 member)
    have before : (after calls).names.Pairwise fun m n =>
        ((calls ++ [(name, builder)]).map Prod.fst).idxOf m <
          ((calls ++ [(name, builder)]).map Prod.fst).idxOf n := by
      refine ih.imp_of_mem fun {m n} left right earlier => ?_
      rwa [kept left, kept right]
    rw [after_concat]
    split
    · exact before
    · next new =>
      have shown : (⟨(after calls).fixtures ++ [⟨name, builder⟩]⟩ : Catalogue β).names =
          (after calls).names ++ [name] := by
        simp [names]
      rw [shown]
      refine List.pairwise_append.2 ⟨before, List.pairwise_singleton _ _, ?_⟩
      intro m member n last
      rw [List.mem_singleton.1 last, kept member, List.map_append,
        List.idxOf_append_of_notMem (mt (mem_names_after calls name).2 new)]
      have inside := List.idxOf_lt_length_of_mem ((mem_names_after calls m).1 member)
      omega

/-- What is found under a name is what the first call with it registered. -/
theorem get?_after (calls : List (String × β)) (name : String) :
    (after calls).get? name =
      (calls.find? fun call => call.1 = name).map fun call => ⟨name, call.2⟩ := by
  induction calls using List.reverseRecOn with
  | nil => rfl
  | append_singleton calls call ih =>
    obtain ⟨n, builder⟩ := call
    rw [after_concat, List.find?_append]
    split
    · next taken =>
      rw [ih]
      by_cases same : n = name
      · -- the name was called before, so the search ends there
        subst same
        obtain ⟨first, found⟩ := Option.isSome_iff_exists.1
          (List.find?_isSome (p := fun call : String × β => call.1 = n).2
            (by simpa using (mem_names_after calls n).1 taken))
        rw [found]
        rfl
      · simp [same]
    · next new =>
      have search : (⟨(after calls).fixtures ++ [⟨n, builder⟩]⟩ : Catalogue β).get? name =
          ((after calls).get? name).or ([⟨n, builder⟩].find? fun f => f.name = name) := by
        unfold get?
        rw [List.find?_append]
      rw [search, ih, Option.map_or]
      by_cases same : n = name
      · simp [same]
      · simp [same]

theorem shows_after (calls : List (String × β)) : (after calls).Shows calls where
  once := registered_iff.1 (registered_after calls)
  all := mem_names_after calls
  inOrder := pairwise_names_after calls
  aligned place := by
    unfold names
    rw [List.getElem?_map]
  size := by
    have distinct : (after calls).names.Nodup := registered_iff.1 (registered_after calls)
    have same : (after calls).names.toFinset = (calls.map Prod.fst).toFinset := by
      ext name
      rw [List.mem_toFinset, List.mem_toFinset, mem_names_after]
    rw [← same, List.toFinset_card_of_nodup distinct]
    exact (List.length_map _).symm
  isEmpty := by
    have bare : (after calls).isEmpty = true ↔ ∀ name, name ∉ (after calls).names := by
      rw [← List.eq_nil_iff_forall_not_mem, names, List.map_eq_nil_iff]
      exact List.isEmpty_iff
    rw [bare]
    simp only [mem_names_after]
    rw [← List.eq_nil_iff_forall_not_mem, List.map_eq_nil_iff]
  found := by
    rintro before name builder rest rfl new
    have passed : (before.find? fun call => call.1 = name) = none := by
      rw [List.find?_eq_none]
      intro call member same
      exact new (List.mem_map.2 ⟨call, member, of_decide_eq_true same⟩)
    rw [get?_after, List.find?_append, passed]
    simp
  absent name := by rw [get?_eq_none_iff, mem_names_after]

end Catalogue

namespace IndexedCatalogue

/-- The catalogue with an index after calls of `register`, from the empty one. -/
def after (calls : List (String × β)) : IndexedCatalogue β :=
  calls.foldl (fun c call => (c.register call.1 call.2).1) empty

theorem after_concat (calls : List (String × β)) (name : String) (builder : β) :
    after (calls ++ [(name, builder)]) = ((after calls).register name builder).1 :=
  List.foldl_concat ..

theorem toCatalogue_after (calls : List (String × β)) :
    (after calls).toCatalogue = Catalogue.after calls := by
  induction calls using List.reverseRecOn with
  | nil => rfl
  | append_singleton calls call ih =>
    obtain ⟨name, builder⟩ := call
    rw [after_concat, Catalogue.after_concat, ← ih]
    split
    · next taken => rw [register_of_mem taken]
    · next new => rw [toCatalogue_register_of_not_mem new]

end IndexedCatalogue

/-- After any calls of `register`, a catalogue shows every name that was called once, at its first
call and with the builder of that call. A further call succeeds exactly for a name that was not
called, and is otherwise refused for it and changes nothing. With an index, the fixtures, what is
found and the answers of `register` are the same. -/
theorem Catalogue.register_after (calls : List (String × β)) :
    (after calls).Shows calls ∧
    (∀ name builder error, (after calls).register name builder = .error error ↔
      name ∈ calls.map Prod.fst ∧ error = .duplicateName name) ∧
    (∀ name builder c, (after calls).register name builder = .ok c ↔
      name ∉ calls.map Prod.fst ∧ c = after (calls ++ [(name, builder)])) ∧
    (∀ name builder, name ∈ calls.map Prod.fst →
      after (calls ++ [(name, builder)]) = after calls) ∧
    (IndexedCatalogue.after calls).toCatalogue = after calls ∧
    (∀ name, (IndexedCatalogue.after calls).get? name = (after calls).get? name) ∧
    (∀ name builder, (IndexedCatalogue.after calls).register name builder =
      if name ∈ calls.map Prod.fst then
        (IndexedCatalogue.after calls, .error (.duplicateName name))
      else (IndexedCatalogue.after (calls ++ [(name, builder)]), .ok ⟨name, builder⟩)) := by
  refine ⟨shows_after calls, ?_, ?_, ?_, IndexedCatalogue.toCatalogue_after calls, ?_, ?_⟩
  · intro name builder error
    rw [register_eq, ← mem_names_after]
    split
    · next taken => simp [taken, eq_comm]
    · next new => simp [new]
  · intro name builder c
    rw [register_eq_ok_iff, after_concat, ← mem_names_after]
    refine and_congr_right fun new => ?_
    rw [if_neg new]
  · intro name builder called
    rw [after_concat, if_pos ((mem_names_after calls name).2 called)]
  · intro name
    rw [IndexedCatalogue.get?_eq, IndexedCatalogue.toCatalogue_after]
  · intro name builder
    have names_eq : name ∈ (IndexedCatalogue.after calls).toCatalogue.names ↔
        name ∈ calls.map Prod.fst := by
      rw [IndexedCatalogue.toCatalogue_after, mem_names_after]
    split
    · next called => exact IndexedCatalogue.register_of_mem (names_eq.2 called)
    · next new =>
      rw [IndexedCatalogue.after_concat,
        ← IndexedCatalogue.register_snd_of_not_mem (mt names_eq.1 new)]

end OnnxCorpus
