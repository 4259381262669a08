import OnnxCorpus.Proofs.Catalogue.PathNames
import OnnxCorpus.Proofs.Catalogue.Registrations

/-!
# Registration in bulk

Registering a list of paths adds the longest front of the list whose names are new to the catalogue
and differ from each other, and answers with the name that ends it (`Catalogue.Bulk`,
`Catalogue.registerAll_after`). What follows the first refused path is not looked at. A catalogue
with an index adds the same fixtures and gives the same answer.
-/

namespace OnnxCorpus

variable {β : Type}

namespace Catalogue

/-- The fixture of a path and a builder. -/
def ofPath (entry : String × β) : Fixture β := ⟨nameOfPath entry.1, entry.2⟩

/-- The names of some fixtures are new to a catalogue and differ from each other. -/
structure Fresh (c : Catalogue β) (fixtures : List (Fixture β)) : Prop where
  distinct : (fixtures.map Fixture.name).Nodup
  new : ∀ f ∈ fixtures, f.name ∉ c.names

/-- What a registration of fixtures in bulk leaves and answers, of which the first ones were taken
and the rest was refused with its first one. -/
structure Bulk (c : Catalogue β) (fixtures taken refused : List (Fixture β))
    (outcome : Catalogue β × Except FixtureError Unit) : Prop where
  split : fixtures = taken ++ refused
  fresh : c.Fresh taken
  longest : ∀ front, front <+: fixtures → c.Fresh front → front.length ≤ taken.length
  added : outcome.1.fixtures = c.fixtures ++ taken
  ok_iff : outcome.2 = .ok () ↔ taken = fixtures
  error_iff : ∀ error, outcome.2 = .error error ↔
    ∃ f rest, refused = f :: rest ∧ error = .duplicateName f.name
  clash : ∀ f rest, refused = f :: rest → f.name ∈ c.names ∨ f.name ∈ taken.map Fixture.name
  kept : ∀ name f, c.get? name = some f → outcome.1.get? name = some f
  found : ∀ f ∈ taken, outcome.1.get? f.name = some f

variable {c : Catalogue β} {f : Fixture β} {fixtures taken refused : List (Fixture β)}

theorem names_append :
    names ⟨c.fixtures ++ taken⟩ = c.names ++ taken.map Fixture.name :=
  List.map_append

theorem fresh_nil (c : Catalogue β) : c.Fresh [] := ⟨List.nodup_nil, by simp⟩

theorem fresh_cons_iff :
    c.Fresh (f :: fixtures) ↔ f.name ∉ c.names ∧ Fresh ⟨c.fixtures ++ [f]⟩ fixtures := by
  have new_iff (g : Fixture β) : g.name ∉ names ⟨c.fixtures ++ [f]⟩ ↔
      g.name ∉ c.names ∧ g.name ≠ f.name := by
    rw [names_append]
    simp
  constructor
  · rintro ⟨distinct, new⟩
    obtain ⟨first, distinct⟩ := List.nodup_cons.1 distinct
    refine ⟨new f List.mem_cons_self, distinct, fun g member => (new_iff g).2 ⟨?_, ?_⟩⟩
    · exact new g (List.mem_cons_of_mem f member)
    · exact fun same => first (same ▸ List.mem_map_of_mem member)
  · rintro ⟨first, distinct, new⟩
    refine ⟨List.nodup_cons.2 ⟨fun repeated => ?_, distinct⟩, List.forall_mem_cons.2 ⟨first, ?_⟩⟩
    · obtain ⟨g, member, same⟩ := List.mem_map.1 repeated
      exact ((new_iff g).1 (new g member)).2 same
    · exact fun g member => ((new_iff g).1 (new g member)).1

/-- Fixtures with new names leave no name twice. -/
theorem Registered.append (registered : c.Registered) (fresh : c.Fresh taken) :
    Registered ⟨c.fixtures ++ taken⟩ := by
  rw [registered_iff] at registered ⊢
  rw [names_append, List.nodup_append]
  refine ⟨registered, fresh.distinct, fun name held n added same => ?_⟩
  obtain ⟨f, member, rfl⟩ := List.mem_map.1 added
  exact fresh.new f member (same ▸ held)

theorem get?_append {name : String} (found : c.get? name = some f) :
    get? ⟨c.fixtures ++ taken⟩ name = some f := by
  unfold get? at found ⊢
  rw [List.find?_append, found, Option.some_or]

theorem registerAll_cons (c : Catalogue β) (path : String) (builder : β)
    (entries : List (String × β)) :
    c.registerAll ((path, builder) :: entries) =
      if nameOfPath path ∈ c.names then (c, .error (.duplicateName (nameOfPath path)))
      else registerAll ⟨c.fixtures ++ [ofPath (path, builder)]⟩ entries := by
  rw [registerAll, register_eq]
  by_cases taken : nameOfPath path ∈ c.names
  · rw [if_pos taken, if_pos taken]
  · rw [if_neg taken, if_neg taken]
    rfl

/-- The answer of a registration in bulk that refused these fixtures. -/
def answer : List (Fixture β) → Except FixtureError Unit
  | [] => .ok ()
  | f :: _ => .error (.duplicateName f.name)

theorem exists_registerAll_eq (c : Catalogue β) (entries : List (String × β)) :
    ∃ taken refused, entries.map ofPath = taken ++ refused ∧ c.Fresh taken ∧
      (∀ f rest, refused = f :: rest → f.name ∈ c.names ∨ f.name ∈ taken.map Fixture.name) ∧
      c.registerAll entries = (⟨c.fixtures ++ taken⟩, answer refused) := by
  induction entries generalizing c with
  | nil => exact ⟨[], [], rfl, fresh_nil c, by simp, by simp [registerAll, answer]⟩
  | cons entry entries ih =>
    obtain ⟨path, builder⟩ := entry
    rw [registerAll_cons]
    split
    · next taken =>
      refine ⟨[], ofPath (path, builder) :: entries.map ofPath, rfl, fresh_nil c, ?_, ?_⟩
      · rintro f rest same
        obtain ⟨rfl, -⟩ := List.cons.inj same
        exact .inl taken
      · rw [List.append_nil]
        rfl
    · next new =>
      obtain ⟨taken, refused, split, fresh, clash, outcome⟩ :=
        ih ⟨c.fixtures ++ [ofPath (path, builder)]⟩
      refine ⟨ofPath (path, builder) :: taken, refused, ?_, fresh_cons_iff.2 ⟨new, fresh⟩, ?_, ?_⟩
      · rw [List.map_cons, split, List.cons_append]
      · intro f rest same
        have clashes := clash f rest same
        rw [names_append] at clashes
        simpa [or_assoc] using clashes
      · rw [outcome, List.append_assoc, List.singleton_append]

/-- No front with new names goes on after a clash. -/
theorem length_le_of_clash {front : List (Fixture β)}
    (clash : ∀ f rest, refused = f :: rest →
      f.name ∈ c.names ∨ f.name ∈ taken.map Fixture.name)
    (part : front <+: taken ++ refused) (fresh : c.Fresh front) :
    front.length ≤ taken.length := by
  by_contra longer
  have whole : taken <+: front :=
    List.prefix_of_prefix_length_le (List.prefix_append taken refused) part
      (Nat.le_of_lt (Nat.lt_of_not_le longer))
  obtain ⟨more, rfl⟩ := whole
  cases more with
  | nil => exact longer (by simp)
  | cons f more =>
    obtain ⟨rest, split⟩ := part
    rw [List.append_assoc, List.append_cancel_left_eq] at split
    obtain held | held := clash f (more ++ rest) split.symm
    · exact fresh.new f (by simp) held
    · have distinct := fresh.distinct
      rw [List.map_append, List.nodup_append] at distinct
      exact distinct.2.2 f.name held f.name (by simp) rfl

/-- The front that is taken is the longest one with new names. -/
theorem bulk_registerAll (registered : c.Registered) (entries : List (String × β)) :
    ∃ taken refused, c.Bulk (entries.map ofPath) taken refused (c.registerAll entries) := by
  obtain ⟨taken, refused, split, fresh, clash, outcome⟩ := exists_registerAll_eq c entries
  refine ⟨taken, refused, split, fresh, ?_, ?_, ?_, ?_, clash, ?_, ?_⟩
  · intro front part
    rw [split] at part
    exact length_le_of_clash clash part
  · rw [outcome]
  · rw [outcome, split]
    cases refused with
    | nil => simp [answer]
    | cons f rest => simp [answer]
  · intro error
    rw [outcome]
    cases refused with
    | nil => simp [answer]
    | cons f rest => simp [answer, eq_comm]
  · intro name f found
    rw [outcome]
    exact get?_append found
  · intro f member
    rw [outcome]
    exact (registered.append fresh).get?_eq_some (List.mem_append_right _ member)

/-- Two paths that give the same name are not registered together. -/
theorem Bulk.exists_duplicateName {outcome : Catalogue β × Except FixtureError Unit}
    (bulk : c.Bulk fixtures taken refused outcome)
    (repeated : ¬ (fixtures.map Fixture.name).Nodup) :
    ∃ name, outcome.2 = .error (.duplicateName name) := by
  cases answered : outcome.2 with
  | ok =>
    have all : taken = fixtures := bulk.ok_iff.1 answered
    exact absurd (all ▸ bulk.fresh.distinct) repeated
  | error error =>
    obtain ⟨f, -, -, rfl⟩ := (bulk.error_iff error).1 answered
    exact ⟨f.name, rfl⟩

end Catalogue

namespace IndexedCatalogue

/-- Registers builders under the names of their paths, up to the first that is refused. -/
def registerAll (c : IndexedCatalogue β) :
    List (String × β) → IndexedCatalogue β × Except FixtureError Unit
  | [] => (c, .ok ())
  | (path, builder) :: rest =>
    match c.register (Catalogue.nameOfPath path) builder with
    | (c, .error e) => (c, .error e)
    | (c, .ok _) => c.registerAll rest

/-- The index changes neither what is registered in bulk nor the answer. -/
theorem registerAll_eq (c : IndexedCatalogue β) (entries : List (String × β)) :
    c.toCatalogue.registerAll entries =
      ((c.registerAll entries).1.toCatalogue, (c.registerAll entries).2) := by
  induction entries generalizing c with
  | nil => rfl
  | cons entry entries ih =>
    obtain ⟨path, builder⟩ := entry
    rw [Catalogue.registerAll_cons, registerAll]
    split
    · next taken => rw [register_of_mem taken]
    · next new =>
      have added : (c.register (Catalogue.nameOfPath path) builder).1.toCatalogue = _ :=
        toCatalogue_register_of_not_mem new
      have answered : (c.register (Catalogue.nameOfPath path) builder).2 = _ :=
        register_snd_of_not_mem new
      cases step : c.register (Catalogue.nameOfPath path) builder with
      | mk c' answer =>
        rw [step] at added answered
        subst answered
        rw [← ih c', added]
        rfl

end IndexedCatalogue

/-- A registration in bulk, after any calls of `register`, adds the longest front of its list whose
names are new and differ from each other. The names are the last parts of the paths, so paths that
differ only in their modules clash. It succeeds exactly if that front is the whole list, and
otherwise gives the first name that clashes. What was found before is found after, and an index
changes nothing. -/
theorem Catalogue.registerAll_after (calls entries : List (String × β)) :
    (∀ path name, nameOfPath path = name ↔ NamedBy path name) ∧
    (∃ taken refused, (after calls).Bulk (entries.map ofPath) taken refused
      ((after calls).registerAll entries)) ∧
    (∀ before outer between outer' rest part builder builder',
      entries = before ++ (outer ++ "::" ++ part, builder) :: between ++
        (outer' ++ "::" ++ part, builder') :: rest →
      ∃ name, ((after calls).registerAll entries).2 = .error (.duplicateName name)) ∧
    ((IndexedCatalogue.after calls).registerAll entries).1.toCatalogue =
      ((after calls).registerAll entries).1 ∧
    ((IndexedCatalogue.after calls).registerAll entries).2 =
      ((after calls).registerAll entries).2 ∧
    (∀ name, ((IndexedCatalogue.after calls).registerAll entries).1.get? name =
      ((after calls).registerAll entries).1.get? name) := by
  obtain ⟨taken, refused, bulk⟩ := bulk_registerAll (registered_after calls) entries
  have indexed := IndexedCatalogue.registerAll_eq (IndexedCatalogue.after calls) entries
  rw [IndexedCatalogue.toCatalogue_after] at indexed
  refine ⟨fun path name => nameOfPath_eq_iff, ⟨taken, refused, bulk⟩, ?_, ?_, ?_, ?_⟩
  · rintro before outer between outer' rest part builder builder' rfl
    refine bulk.exists_duplicateName fun distinct => ?_
    rw [List.map_append, List.map_append, List.nodup_append] at distinct
    exact distinct.2.2 (nameOfPath (outer ++ "::" ++ part)) (by simp [ofPath])
      (nameOfPath (outer' ++ "::" ++ part)) (by simp [ofPath]) (nameOfPath_append outer outer' part)
  · rw [indexed]
  · rw [indexed]
  · intro name
    rw [IndexedCatalogue.get?_eq, indexed]

example :
    let outcome := Catalogue.registerAll {} [("shape::split", 1), ("random:: split", 2), ("neg", 3)]
    outcome.1.fixtures = [⟨"split", 1⟩] ∧ outcome.2 = .error (.duplicateName "split") := by
  decide +kernel

end OnnxCorpus
