import OnnxCorpus.Corpus
import OnnxCorpus.Proofs.Batch.Saves
import OnnxCorpus.Proofs.Catalogue.Bulk

/-!
# The fixtures of the corpus

The fixtures of the corpus have names of their own that hold no slash, and every builder gives the
pieces of a graph, so that none of them crashes.
-/

namespace OnnxCorpus

namespace Catalogue

variable {β : Type} {f : Fixture β} {entries : List (String × β)}

/-- A catalogue that is made in bulk has fixtures of the list, and no name twice. -/
theorem registered_registerAll (entries : List (String × β)) :
    (registerAll {} entries).1.Registered := by
  obtain ⟨taken, refused, -, fresh, -, outcome⟩ := exists_registerAll_eq {} entries
  rw [outcome]
  exact Registered.empty.append fresh

theorem exists_entry_of_mem_registerAll (member : f ∈ (registerAll {} entries).1.fixtures) :
    ∃ entry ∈ entries, ofPath entry = f := by
  obtain ⟨taken, refused, split, -, -, outcome⟩ := exists_registerAll_eq {} entries
  rw [outcome] at member
  have among : f ∈ entries.map ofPath := by
    rw [split]
    exact List.mem_append_left refused member
  exact List.mem_map.1 among

end Catalogue

namespace Corpus

open Catalogue

theorem registered_catalogue : catalogue.Registered := by
  rw [catalogue]
  exact registered_registerAll fixtures

variable {f : Fixture Built}

theorem exists_entry_of_mem (member : f ∈ catalogue.fixtures) :
    ∃ entry ∈ fixtures, ofPath entry = f := by
  rw [catalogue] at member
  exact exists_entry_of_mem_registerAll member

theorem plain_of_mem (member : f ∈ catalogue.fixtures) : f.Plain := by
  have all : ∀ entry ∈ fixtures, '/' ∉ entry.1.toList := by decide +kernel
  obtain ⟨entry, among, rfl⟩ := exists_entry_of_mem member
  exact fun slash => all entry among ((nameOfPath_isInfix entry.1).subset slash)

/-- No builder of the corpus fails. -/
theorem exists_parts_of_mem (member : f ∈ catalogue.fixtures) : ∃ parts, f.builder = .ok parts := by
  have all : ∀ entry ∈ fixtures, entry.2.isOk := by decide +kernel
  obtain ⟨entry, among, rfl⟩ := exists_entry_of_mem member
  show ∃ parts, entry.2 = .ok parts
  cases built : entry.2 with
  | ok parts => exact ⟨parts, rfl⟩
  | error fault =>
    have fine := all entry among
    rw [built] at fine
    cases fine

end Corpus

end OnnxCorpus
