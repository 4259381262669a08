import Mathlib.Data.List.TakeWhile
import OnnxCorpus.Text.Character

/-!
# White space around a text

What is left of a text without the white space at either end is the part of it that has only white
space before and after it and does not start or end with any (`Text.trimBlanks_eq_iff`).
-/

namespace OnnxCorpus.Text

/-- A text has only white space before and after a part of it that neither starts nor ends with
white space. -/
structure Trimmed (text part : List Char) : Prop where
  around : ∃ left right, text = left ++ part ++ right ∧ (∀ c ∈ left, isBlank c = true) ∧
    ∀ c ∈ right, isBlank c = true
  starts : ∀ c, part.head? = some c → isBlank c = false
  ends : ∀ c, part.getLast? = some c → isBlank c = false

variable {text part rest : List Char}

theorem dropBlanks_append {left : List Char} (blank : ∀ c ∈ left, isBlank c = true) :
    dropBlanks (left ++ rest) = dropBlanks rest :=
  List.dropWhile_append_of_pos blank

theorem dropBlanks_eq_iff :
    dropBlanks text = rest ↔
      (∃ left, text = left ++ rest ∧ ∀ c ∈ left, isBlank c = true) ∧
        ∀ c, rest.head? = some c → isBlank c = false := by
  constructor
  · rintro rfl
    refine ⟨⟨text.takeWhile isBlank, List.takeWhile_append_dropWhile.symm, ?_⟩, ?_⟩
    · exact fun c => List.mem_takeWhile_imp
    · exact fun c => head_dropBlanks
  · rintro ⟨⟨left, rfl, blank⟩, starts⟩
    rw [dropBlanks_append blank]
    cases rest with
    | nil => rfl
    | cons c rest => exact List.dropWhile_cons_of_neg (by simp [starts c rfl])

/-- Trimming a text leaves the part of it that has only white space around it. -/
theorem trimBlanks_eq_iff : trimBlanks text = part ↔ Trimmed text part := by
  have ends_iff : (∀ c, part.reverse.head? = some c → isBlank c = false) ↔
      ∀ c, part.getLast? = some c → isBlank c = false := by
    rw [List.head?_reverse]
  rw [trimBlanks, List.reverse_eq_iff, dropBlanks_eq_iff, ends_iff]
  constructor
  · rintro ⟨⟨right, split, blank⟩, ends⟩
    have inner : dropBlanks text = part ++ right.reverse := by
      simpa using congrArg List.reverse split
    obtain ⟨⟨left, split', blank'⟩, starts⟩ := dropBlanks_eq_iff.1 inner
    refine ⟨⟨left, right.reverse, by rw [split', List.append_assoc], blank', ?_⟩, ?_, ends⟩
    · exact fun c member => blank c (List.mem_reverse.1 member)
    · exact fun c first => starts c (by rw [List.head?_append, first, Option.some_or])
  · rintro ⟨⟨left, right, split, blank, blank'⟩, starts, ends⟩
    refine ⟨?_, ends⟩
    rw [split, List.append_assoc, dropBlanks_append blank]
    cases part with
    | nil =>
      -- nothing but white space: all of it is dropped from the front
      have nothing : dropBlanks right = [] :=
        dropBlanks_eq_iff.2 ⟨⟨right, (List.append_nil right).symm, blank'⟩, by simp⟩
      exact ⟨[], by simp [nothing], by simp⟩
    | cons c part =>
      have kept : dropBlanks (c :: part ++ right) = c :: part ++ right :=
        dropBlanks_eq_iff.2 ⟨⟨[], rfl, by simp⟩, starts⟩
      refine ⟨right.reverse, by rw [kept, List.reverse_append], fun c member => ?_⟩
      exact blank' c (List.mem_reverse.1 member)

end OnnxCorpus.Text
