import OnnxCorpus.Catalogue
import OnnxCorpus.Proofs.Text.Blank

/-!
# The names of paths

A path names a fixture by its last part: what follows the last two colons in a row, or all of it if
there are none, without the white space around it (`Catalogue.nameOfPath_eq_iff`). So the modules
that a path goes through have no part in the name (`Catalogue.nameOfPath_append`).
-/

namespace OnnxCorpus.Catalogue

/-- The last part of a path: what follows the last place where two colons stand in a row, or the
whole path if there is none. -/
inductive LastPart (path : List Char) : List Char → Prop
  | after {before part : List Char} (split : path = before ++ ':' :: ':' :: part)
      (last : ∀ before' part', path = before' ++ ':' :: ':' :: part' →
        before'.length ≤ before.length) : LastPart path part
  | whole (none : ∀ before part, path ≠ before ++ ':' :: ':' :: part) : LastPart path path

/-- The name that a path gives to a fixture. -/
def NamedBy (path name : String) : Prop :=
  ∃ part, LastPart path.toList part ∧ Text.Trimmed part name.toList

variable {path part part' : List Char}

theorem LastPart.unique (found : LastPart path part) (found' : LastPart path part') :
    part = part' := by
  cases found with
  | after split last =>
    cases found' with
    | after split' last' =>
      have together := Nat.le_antisymm (last' _ _ split) (last _ _ split')
      have same := (List.append_inj (split.symm.trans split') together).2
      simpa using same
    | whole none => exact absurd split (none _ _)
  | whole none =>
    cases found' with
    | after split' => exact absurd split' (none _ _)
    | whole => rfl

/-- Either the text goes on with the first two colons in a row, or it has none. -/
theorem beforeColons_cases (cs : List Char) :
    (∃ rest, cs = beforeColons cs ++ ':' :: ':' :: rest ∧
      ∀ front rest', cs = front ++ ':' :: ':' :: rest' →
        (beforeColons cs).length ≤ front.length) ∨
    beforeColons cs = cs ∧ ∀ front rest, cs ≠ front ++ ':' :: ':' :: rest := by
  fun_induction beforeColons cs with
  | case1 rest => exact .inl ⟨rest, rfl, by simp⟩
  | case2 c cs other ih =>
    -- two colons in a row do not start at `c`
    have later (front rest : List Char) (split : c :: cs = front ++ ':' :: ':' :: rest) :
        ∃ front', front = c :: front' ∧ cs = front' ++ ':' :: ':' :: rest := by
      cases front with
      | nil =>
        obtain ⟨rfl, rfl⟩ := List.cons.inj split
        exact (other rest rfl rfl).elim
      | cons d front =>
        obtain ⟨rfl, rfl⟩ := List.cons.inj split
        exact ⟨front, rfl, rfl⟩
    obtain ⟨rest, split, first⟩ | ⟨all, none⟩ := ih
    · refine .inl ⟨rest, by rw [List.cons_append, ← split], fun front rest' split' => ?_⟩
      obtain ⟨after, rfl, tail⟩ := later front rest' split'
      exact Nat.succ_le_succ (first after rest' tail)
    · refine .inr ⟨by rw [all], fun front rest split => ?_⟩
      obtain ⟨after, rfl, tail⟩ := later front rest split
      exact none after rest tail
  | case3 => exact .inr ⟨rfl, by simp⟩

/-- Two colons in a row part a path as they part it backwards. -/
theorem eq_append_iff_reverse {before : List Char} :
    path = before ++ ':' :: ':' :: part ↔
      path.reverse = part.reverse ++ ':' :: ':' :: before.reverse := by
  rw [← List.reverse_inj]
  simp

theorem lastPart_beforeColons (path : List Char) :
    LastPart path (beforeColons path.reverse).reverse := by
  obtain ⟨rest, split, first⟩ | ⟨all, none⟩ := beforeColons_cases path.reverse
  · have forwards : path = rest.reverse ++ ':' :: ':' :: (beforeColons path.reverse).reverse := by
      rw [eq_append_iff_reverse, List.reverse_reverse, List.reverse_reverse]
      exact split
    refine .after forwards fun before part split' => ?_
    -- the part before is the longer, the sooner the text backwards comes to the colons
    have shorter := first _ _ (eq_append_iff_reverse.1 split')
    have total := congrArg List.length split
    have total' := congrArg List.length split'
    simp only [List.length_append, List.length_cons, List.length_reverse] at shorter total total' ⊢
    omega
  · rw [all, List.reverse_reverse]
    exact .whole fun before part split => none _ _ (eq_append_iff_reverse.1 split)

theorem lastPart_iff : LastPart path part ↔ (beforeColons path.reverse).reverse = part :=
  ⟨(lastPart_beforeColons path).unique, fun same => same ▸ lastPart_beforeColons path⟩

/-- The name that is computed from a path is the last part of it without the white space around. -/
theorem nameOfPath_eq_iff {path name : String} : nameOfPath path = name ↔ NamedBy path name := by
  rw [nameOfPath, ← String.toList_inj, String.toList_ofList, Text.trimBlanks_eq_iff]
  simp only [NamedBy, lastPart_iff, exists_eq_left']

theorem LastPart.isSuffix (last : LastPart path part) : part <:+ path := by
  cases last with
  | @after before _ split =>
    rw [split]
    exact ⟨before ++ [':', ':'], by simp⟩
  | whole => exact List.suffix_rfl

/-- A name is a stretch of its path. -/
theorem nameOfPath_isInfix (path : String) : (nameOfPath path).toList <:+: path.toList := by
  obtain ⟨part, last, trimmed⟩ := nameOfPath_eq_iff.1 (Eq.refl (nameOfPath path))
  obtain ⟨left, right, split, -⟩ := trimmed.around
  exact List.IsInfix.trans ⟨left, right, split.symm⟩ last.isSuffix.isInfix

theorem beforeColons_append (cs rest rest' : List Char) :
    beforeColons (cs ++ ':' :: ':' :: rest) = beforeColons (cs ++ ':' :: ':' :: rest') := by
  induction cs with
  | nil => rfl
  | cons c cs ih =>
    by_cases here : c = ':' ∧ (cs = [] ∨ cs.head? = some ':')
    · obtain ⟨rfl, rfl | next⟩ := here
      · rfl
      · obtain ⟨cs, rfl⟩ := List.head?_eq_some_iff.1 next
        rfl
    · have passed (rest : List Char) : beforeColons (c :: cs ++ ':' :: ':' :: rest) =
          c :: beforeColons (cs ++ ':' :: ':' :: rest) := by
        rw [List.cons_append, beforeColons]
        rintro tail rfl next
        refine here ⟨rfl, ?_⟩
        cases cs with
        | nil => exact .inl rfl
        | cons d cs => exact .inr (congrArg some (List.cons.inj next).1)
      rw [passed, passed, ih]

/-- What stands before two colons in a row has no part in the name. -/
theorem nameOfPath_append (before before' part : String) :
    nameOfPath (before ++ "::" ++ part) = nameOfPath (before' ++ "::" ++ part) := by
  have backwards (before : String) : (before ++ "::" ++ part).toList.reverse =
      part.toList.reverse ++ ':' :: ':' :: before.toList.reverse := by
    simp
  rw [nameOfPath, nameOfPath, backwards, backwards,
    beforeColons_append _ before.toList.reverse before'.toList.reverse]

end OnnxCorpus.Catalogue
