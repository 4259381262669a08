import OnnxCorpus.Catalogue
import Mathlib.Data.List.Induction
import Mathlib.Data.List.Nodup

/-!
# Catalogues made by registration

Fixtures get into a catalogue by being registered, so no two of them share a name.
-/

namespace OnnxCorpus.Catalogue

variable {β : Type} {c c' : Catalogue β} {name : String} {builder : β}

/-- A catalogue that fixtures were registered in, one after the other. -/
inductive Registered : Catalogue β → Prop
  | empty : Registered {}
  | register {c c' : Catalogue β} {name : String} {builder : β} (before : Registered c)
      (taken : c.register name builder = .ok c') : Registered c'

theorem get?_eq_none_iff : c.get? name = none ↔ name ∉ c.names := by
  simp [get?, names]

theorem register_eq :
    c.register name builder =
      if name ∈ c.names then .error (.duplicateName name)
      else .ok ⟨c.fixtures ++ [⟨name, builder⟩]⟩ := by
  rw [register]
  cases found : c.get? name with
  | none => rw [if_neg (get?_eq_none_iff.1 found)]
  | some f =>
    have taken : name ∈ c.names := by
      by_contra new
      rw [get?_eq_none_iff.2 new] at found
      cases found
    rw [if_pos taken]

theorem register_eq_ok_iff :
    c.register name builder = .ok c' ↔
      name ∉ c.names ∧ c' = ⟨c.fixtures ++ [⟨name, builder⟩]⟩ := by
  rw [register_eq]
  split
  · next taken => simp [taken]
  · next new => simp [new, eq_comm]

/-- What can be registered are the catalogues without a repeated name. -/
theorem registered_iff : c.Registered ↔ c.names.Nodup := by
  constructor
  · intro registered
    induction registered with
    | empty => exact List.nodup_nil
    | register _ taken ih =>
      obtain ⟨new, rfl⟩ := register_eq_ok_iff.1 taken
      rw [names, List.map_append, List.nodup_append_comm]
      exact List.nodup_cons.2 ⟨new, ih⟩
  · obtain ⟨fixtures⟩ := c
    induction fixtures using List.reverseRecOn with
    | nil => exact fun _ => .empty
    | append_singleton before f ih =>
      intro distinct
      rw [names, List.map_append, List.nodup_append_comm] at distinct
      obtain ⟨new, distinct⟩ := List.nodup_cons.1 distinct
      exact .register (ih distinct) (register_eq_ok_iff.2 ⟨new, rfl⟩)

/-- What is found under a name is a fixture of that name. -/
theorem mem_of_get?_eq_some {f : Fixture β} (found : c.get? name = some f) :
    f ∈ c.fixtures ∧ f.name = name :=
  ⟨List.mem_of_find?_eq_some found, by simpa using List.find?_some found⟩

/-- A fixture is found under its name. -/
theorem Registered.get?_eq_some (registered : c.Registered) {f : Fixture β}
    (member : f ∈ c.fixtures) : c.get? f.name = some f := by
  obtain ⟨g, found⟩ := Option.isSome_iff_exists.1
    (List.find?_isSome (p := fun g : Fixture β => g.name = f.name).2 ⟨f, member, by simp⟩)
  obtain ⟨member', named⟩ := mem_of_get?_eq_some found
  have same : g = f :=
    List.inj_on_of_nodup_map (registered_iff.1 registered) member' member named
  exact same ▸ found

end OnnxCorpus.Catalogue
