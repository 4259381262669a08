import OnnxCorpus.Proofs.Files.Read
import OnnxCorpus.Proofs.Format.RoundTrip
import OnnxCorpus.Workspace

/-!
# What was saved last

A log lists saves that succeeded, in their order. A tree holds what a log wrote (`Wrote`) if every
file that a path of the log leads to is that of the last such save, and everything else is as it was
before. Logs are put one after the other (`Wrote.append`), so that it is enough to know it of one
save (`wrote_saveWith`), and what is loaded is what was saved last (`Wrote.load_eq`).
-/

namespace OnnxCorpus

open Fallible

variable {β : Type}

/-- A save that succeeded: its path, the versions and the model of the file, and the fixture that
this is a model of, if it is one. -/
structure Saved (β : Type) where
  path : String
  versions : Versions
  model : Model
  fixture? : Option (Fixture β) := none

/-- A save as it is entered in a log, which it is if it succeeded. -/
def SaveRun.log {ε α : Type} (run : SaveRun ε α) (s : Saved β) : List (Saved β) :=
  match run.result with
  | .ok _ => [s]
  | .error _ => []

namespace Tree

/-- The last save of a log whose path leads to a place. -/
def lastAt (t : Tree) (place : Location) (log : List (Saved β)) : Option (Saved β) :=
  log.reverse.find? fun s => t.locate s.path = .ok place

/-- A tree that was made from another one by the saves of a log. -/
structure Wrote (t : Tree) (log : List (Saved β)) (t' : Tree) : Prop where
  same : t.SameDirectories t'
  leads : ∀ s ∈ log, ∃ place, t.locate s.path = .ok place
  written : ∀ place s, t.lastAt place log = some s →
    ∃ bytes, s.model.encode s.versions = .ok bytes ∧ t'.entry? place = some (.file bytes)
  kept : ∀ place, t.lastAt place log = none → t'.entry? place = t.entry? place

variable {t t' t'' : Tree} {place : Location} {path : String} {log log' : List (Saved β)}
  {s : Saved β}

theorem lastAt_append :
    t.lastAt place (log ++ log') = (t.lastAt place log').or (t.lastAt place log) := by
  unfold lastAt
  rw [List.reverse_append, List.find?_append]

theorem lastAt_singleton :
    t.lastAt place [s] = if t.locate s.path = .ok place then some s else none := by
  by_cases here : t.locate s.path = .ok place
  · simp [lastAt, here]
  · simp [lastAt, here]

theorem mem_of_lastAt (last : t.lastAt place log = some s) : s ∈ log :=
  List.mem_reverse.1 (List.mem_of_find?_eq_some last)

/-- Saves make no directories, so a log means the same before and after them. -/
theorem SameDirectories.lastAt_eq (same : t.SameDirectories t') (place : Location)
    (log : List (Saved β)) :
    t.lastAt place log = t'.lastAt place log := by
  unfold lastAt
  congr 1
  funext s
  exact decide_eq_decide.2 same.locate_eq_ok_iff

namespace Wrote

theorem refl (t : Tree) : Wrote t ([] : List (Saved β)) t :=
  ⟨.of_alike (.refl t), nofun, nofun, fun _ _ => rfl⟩

/-- A file that was put at its target. -/
theorem single {bytes : List UInt8} (reached : t.target s.path = .ok place)
    (encoded : s.model.encode s.versions = .ok bytes) :
    Wrote t [s] (t.set place (.file bytes)) := by
  obtain ⟨-, located, free⟩ := Tree.target_eq_ok_iff.1 reached
  have below : place ≠ [] := ne_nil_of_target reached
  have found : t.locate s.path = .ok place := locate_of_locateFile located
  refine ⟨.set_file below free bytes, ?_, ?_, ?_⟩
  · intro s' member
    rw [List.mem_singleton.1 member]
    exact ⟨place, found⟩
  · intro p s' last
    rw [lastAt_singleton] at last
    split at last
    · next leads =>
      obtain rfl := Except.ok.inj (found.symm.trans leads)
      obtain rfl := Option.some.inj last
      exact ⟨bytes, encoded, by rw [entry?_set below, if_pos rfl]⟩
    · cases last
  · intro p none
    rw [lastAt_singleton] at none
    split at none
    · cases none
    · next elsewhere =>
      rw [entry?_set below, if_neg]
      rintro rfl
      exact elsewhere found

theorem append (first : Wrote t log t') (later : Wrote t' log' t'') :
    Wrote t (log ++ log') t'' := by
  refine ⟨first.same.trans later.same, ?_, ?_, ?_⟩
  · intro s member
    rcases List.mem_append.1 member with early | late
    · exact first.leads s early
    · obtain ⟨place, found⟩ := later.leads s late
      exact ⟨place, first.same.locate_eq_ok_iff.2 found⟩
  · intro place s last
    rw [lastAt_append, first.same.lastAt_eq place log'] at last
    cases found : t'.lastAt place log' with
    | some s' =>
      rw [found, Option.some_or] at last
      obtain rfl := Option.some.inj last
      exact later.written place s' found
    | none =>
      rw [found, Option.none_or] at last
      rw [later.kept place found]
      exact first.written place s last
  · intro place none
    rw [lastAt_append, first.same.lastAt_eq place log'] at none
    obtain ⟨found, before⟩ := Option.or_eq_none_iff.1 none
    rw [later.kept place found, first.kept place before]

/-- What is loaded is what was saved last. -/
theorem load_eq (wrote : Wrote t log t') (last : t.lastAt place log = some s) :
    ∃ bytes, s.model.encode s.versions = .ok bytes ∧ ∀ path, t'.locate path = .ok place →
      Model.load t' path = (Model.decode bytes).mapError (Fault.map .decode) := by
  obtain ⟨bytes, encoded, here⟩ := wrote.written place s last
  refine ⟨bytes, encoded, ?_⟩
  intro path found
  have read : t'.read path = .ok bytes := by
    unfold Tree.read
    rw [found, ok_bind, here]
  unfold Model.load
  rw [read]

end Wrote

end Tree

/-! ### Saves of models and fixtures -/

/-- What the save of a model leaves, whichever of its steps is made to fail. -/
theorem Model.saveWith_left_eq (fault : Option SaveFault) (versions : Versions) (t : Tree)
    (path : String) (m : Model) :
    (∃ e, (m.saveWith fault versions t path).result = .error e) ∧
        (m.saveWith fault versions t path).left = t ∨
      (m.saveWith fault versions t path).result = .ok () ∧
        ∃ bytes place, m.encode versions = .ok bytes ∧ t.target path = .ok place ∧
          (m.saveWith fault versions t path).left = t.set place (.file bytes) := by
  unfold saveWith
  cases m.encode versions with
  | error e => exact .inl ⟨⟨.encode e, rfl⟩, rfl⟩
  | ok bytes =>
    rcases (Tree.saves_saveWith fault t path bytes).left_eq with
      ⟨⟨e, failed⟩, left⟩ | ⟨done, place, reached, left⟩
    · refine .inl ⟨⟨.io e, ?_⟩, left⟩
      show (t.saveWith fault path bytes).result.mapError SaveError.io = _
      rw [failed]
      rfl
    · exact .inr ⟨mapError_eq_ok_iff.2 done, bytes, place, rfl, reached, left⟩

theorem Model.wrote_saveWith (fault : Option SaveFault) (t : Tree) (s : Saved β) :
    let run := s.model.saveWith fault s.versions t s.path
    t.Wrote (run.log s) run.left := by
  intro run
  rcases s.model.saveWith_left_eq fault s.versions t s.path with
    ⟨⟨e, failed⟩, left⟩ | ⟨done, bytes, place, encoded, reached, left⟩
  · have log : run.log s = [] := by simp [run, SaveRun.log, failed]
    rw [log, show run.left = t from left]
    exact .refl t
  · have log : run.log s = [s] := by simp [run, SaveRun.log, done]
    rw [log, show run.left = t.set place (.file bytes) from left]
    exact .single reached encoded

end OnnxCorpus
