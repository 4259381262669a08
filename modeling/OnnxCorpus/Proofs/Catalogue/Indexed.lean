import OnnxCorpus.Proofs.Catalogue

/-!
# Catalogues with an index

An indexed catalogue keeps the place of every name in a hash table beside its fixtures, so that a
fixture is found without going through all of them. The table and the fixtures agree in every
indexed catalogue there is, so that a place found in the table is one of a fixture. What is found
under a name and which names are refused is the same as in the catalogue of the same fixtures
(`get?_eq`, `mem_places_iff`).
-/

namespace OnnxCorpus

/-- Fixtures in the order of their registration, and the place of every name among them. -/
structure IndexedCatalogue (β : Type) where
  fixtures : Array (Fixture β)
  places : Std.HashMap String Nat
  agree : ∀ name place,
    places[name]? = some place ↔ fixtures[place]?.map Fixture.name = some name

namespace IndexedCatalogue

variable {β : Type}

/-- The catalogue without fixtures. -/
def empty : IndexedCatalogue β := ⟨#[], ∅, by simp⟩

theorem lt_size {c : IndexedCatalogue β} {name : String} {place : Nat}
    (found : c.places[name]? = some place) : place < c.fixtures.size := by
  obtain ⟨f, here, -⟩ := Option.map_eq_some_iff.1 ((c.agree name place).1 found)
  exact (Array.getElem?_eq_some_iff.1 here).1

/-- The fixture of a name. -/
def get? (c : IndexedCatalogue β) (name : String) : Option (Fixture β) :=
  match found : c.places[name]? with
  | none => none
  | some place =>
    have inside := lt_size found
    some c.fixtures[place]

theorem agree_insert {c : IndexedCatalogue β} {name : String} (new : name ∉ c.places)
    (builder : β) (n : String) (place : Nat) :
    (c.places.insert name c.fixtures.size)[n]? = some place ↔
      (c.fixtures.push ⟨name, builder⟩)[place]?.map Fixture.name = some n := by
  have absent : c.places[name]? = none := Std.HashMap.getElem?_eq_none new
  rw [Std.HashMap.getElem?_insert, Array.getElem?_push]
  by_cases last : place = c.fixtures.size
  · subst last
    by_cases same : name = n
    · simp [same]
    · have elsewhere : c.places[n]? ≠ some c.fixtures.size := fun found =>
        Nat.lt_irrefl _ (lt_size found)
      simp [same, elsewhere]
  · by_cases same : name = n
    · subst same
      have unused : c.fixtures[place]?.map Fixture.name ≠ some name := fun held => by
        rw [(c.agree name place).2 held] at absent
        cases absent
      simpa [last, Ne.symm last] using unused
    · simpa [last, same] using c.agree n place

/-- Registers a fixture under a name that is not taken, and gives it; otherwise the catalogue stays
as it is. -/
def register (c : IndexedCatalogue β) (name : String) (builder : β) :
    IndexedCatalogue β × Except FixtureError (Fixture β) :=
  if taken : name ∈ c.places then (c, .error (.duplicateName name))
  else
    (⟨c.fixtures.push ⟨name, builder⟩, c.places.insert name c.fixtures.size,
      agree_insert taken builder⟩, .ok ⟨name, builder⟩)

/-- The same fixtures without the index. -/
def toCatalogue (c : IndexedCatalogue β) : Catalogue β := ⟨c.fixtures.toList⟩

variable {c : IndexedCatalogue β} {name : String} {builder : β}

theorem mem_places_iff : name ∈ c.places ↔ name ∈ c.toCatalogue.names := by
  rw [Std.HashMap.mem_iff_isSome_getElem?, Option.isSome_iff_exists]
  unfold toCatalogue Catalogue.names
  rw [List.mem_iff_getElem?]
  simp only [List.getElem?_map, Array.getElem?_toList, c.agree]

/-- No two fixtures share a name, because the table has one place for it. -/
theorem registered (c : IndexedCatalogue β) : c.toCatalogue.Registered := by
  rw [Catalogue.registered_iff, List.nodup_iff_getElem?_ne_getElem?]
  intro i j earlier inside same
  obtain ⟨name, here⟩ : ∃ name, c.toCatalogue.names[j]? = some name :=
    ⟨_, List.getElem?_eq_getElem inside⟩
  have place_of (k : Nat) (held : c.toCatalogue.names[k]? = some name) :
      c.places[name]? = some k := by
    rw [c.agree]
    simpa [toCatalogue, Catalogue.names] using held
  have both := (place_of i (same.trans here)).symm.trans (place_of j here)
  exact absurd (Option.some.inj both) (Nat.ne_of_lt earlier)

/-- The table leads to the fixture that a search finds. -/
theorem get?_eq (c : IndexedCatalogue β) (name : String) :
    c.get? name = c.toCatalogue.get? name := by
  unfold get?
  split
  · next absent =>
    have new : name ∉ c.toCatalogue.names := by
      rw [← mem_places_iff, Std.HashMap.mem_iff_isSome_getElem?, absent]
      simp
    exact (Catalogue.get?_eq_none_iff.2 new).symm
  · next place found =>
    have inside := lt_size found
    have named : c.fixtures[place].name = name := by
      have held := (c.agree name place).1 found
      rw [Array.getElem?_eq_getElem inside] at held
      exact Option.some.inj held
    have member : c.fixtures[place] ∈ c.toCatalogue.fixtures := by
      simp [toCatalogue]
    rw [← c.registered.get?_eq_some member, named]

theorem register_of_mem (taken : name ∈ c.toCatalogue.names) :
    c.register name builder = (c, .error (.duplicateName name)) := by
  rw [register, dif_pos (mem_places_iff.2 taken)]

theorem toCatalogue_register_of_not_mem (new : name ∉ c.toCatalogue.names) :
    (c.register name builder).1.toCatalogue =
      ⟨c.toCatalogue.fixtures ++ [⟨name, builder⟩]⟩ := by
  rw [register, dif_neg (mt mem_places_iff.1 new)]
  simp [toCatalogue]

theorem register_snd_of_not_mem (new : name ∉ c.toCatalogue.names) :
    (c.register name builder).2 = .ok ⟨name, builder⟩ := by
  rw [register, dif_neg (mt mem_places_iff.1 new)]

end IndexedCatalogue

end OnnxCorpus
