import OnnxCorpus.Proofs.Files.Read
import OnnxCorpus.Workspace

/-!
# Saves that happen as a whole or not at all

Whichever step of a save fails, each of the trees that it passes through has at the destination
what was there before or all of what is saved, and the files that were elsewhere. A save that
succeeds leaves its file and nothing else behind, and a save that fails leaves the tree it started
from (`SaveRun.AllOrNothing`). That is so for models, for fixtures and for runners
(`Runner.saves_allOrNothing`); where there is no model to save, no tree is ever different.
-/

namespace OnnxCorpus

open Fallible

namespace Tree

variable {t : Tree} {place directory : Location} {path : String}

/-! ### The place of the temporary file -/

theorem eq_segments_of_route {segments : List String} (routed : route path = .ok segments) :
    segments = Path.segments path := by
  unfold route at routed
  split at routed
  · cases routed
  · split at routed
    · cases routed
    · split at routed
      · cases routed
      · exact (Except.ok.inj routed).symm

theorem length_lt_of_entry? {entry : Entry} (here : t.entry? place = some entry) {name : String}
    (onTheWay : name ∈ place) : name.length < (t.freshName path).length := by
  have below : place ≠ [] := List.ne_nil_of_mem onTheWay
  unfold entry? at here
  rw [if_neg below] at here
  exact length_lt_freshName t path (Table.mem_of_lookup_eq_some here) onTheWay

theorem length_lt_of_mem_segments {name : String} (segment : name ∈ Path.segments path) :
    name.length < (t.freshName path).length := by
  obtain ⟨piece, among, rfl⟩ := List.mem_map.1 segment
  have short := Text.length_le_of_mem_pieces among
  have long : path.length < (t.freshName path).length := by
    simp only [freshName, String.length_ofList, List.length_replicate]
    exact Nat.lt_succ_of_le (le_foldl_max (.inl (Nat.le_refl _)))
  rw [String.length_toList] at short
  rw [String.length_ofList]
  omega

/-- The names on the way to the place of a path are names in the tree or in the path, so that none
is as long as the name of a temporary file. -/
theorem length_lt_of_locate (found : t.locate path = .ok place) {name : String}
    (onTheWay : name ∈ place) : name.length < (t.freshName path).length := by
  obtain ⟨segments, routed, walked⟩ := bind_eq_ok_iff.1 found
  obtain rfl := eq_segments_of_route routed
  obtain ⟨front, last, split⟩ : ∃ front last, Path.segments path = front ++ [last] := by
    have some : Path.segments path ≠ [] := by
      unfold Path.segments
      rw [Ne, List.map_eq_nil_iff]
      exact Text.pieces_ne_nil '/' path.toList
    exact ⟨_, _, (List.dropLast_append_getLast some).symm⟩
  -- the last segment is entered from a directory, which is in the tree
  rw [split, follow, List.foldlM_append, bind_eq_ok_iff] at walked
  obtain ⟨q, -, entered⟩ := walked
  rw [List.foldlM_cons, bind_eq_ok_iff] at entered
  obtain ⟨p, entered, arrived⟩ := entered
  obtain rfl := Except.ok.inj arrived
  obtain ⟨directory, -, rfl⟩ := enter_eq_ok_iff.1 entered
  unfold placeAfter at onTheWay
  split at onTheWay
  · exact length_lt_of_entry? directory onTheWay
  · split at onTheWay
    · exact length_lt_of_entry? directory ((List.dropLast_sublist _).subset onTheWay)
    · rcases List.mem_append.1 onTheWay with before | here
      · exact length_lt_of_entry? directory before
      · rw [List.mem_singleton.1 here]
        apply length_lt_of_mem_segments
        rw [split]
        simp

/-- A temporary file is not made where its path leads. -/
theorem ne_staging_of_locate (found : t.locate path = .ok place) :
    place ≠ t.staging path directory := by
  rintro rfl
  have last : t.freshName path ∈ t.staging path directory := by simp [staging]
  have short := length_lt_of_locate found last
  omega

/-- A tree in which a path leads to what was there before, as does every place where there was
something. -/
structure Spares (t : Tree) (path : String) (t' : Tree) : Prop where
  start : t'.workingDirectory = t.workingDirectory
  destination : ∀ place, t.locate path = .ok place → t'.entry? place = t.entry? place
  others : ∀ place, t.entry? place ≠ none → t'.entry? place = t.entry? place

theorem Spares.refl (t : Tree) (path : String) : Spares t path t :=
  ⟨rfl, fun _ _ => rfl, fun _ _ => rfl⟩

/-- A temporary file is in nobody's way. -/
theorem spares_staged (t : Tree) (path : String) (directory : Location) (entry : Entry) :
    Spares t path (t.set (t.staging path directory) entry) := by
  have elsewhere {place : Location} (apart : place ≠ t.staging path directory) :
      Tree.entry? (t.set (t.staging path directory) entry) place = t.entry? place := by
    rw [entry?_set staging_ne_nil, if_neg apart]
  refine ⟨rfl, ?_, ?_⟩
  · intro place found
    exact elsewhere (ne_staging_of_locate found)
  · intro place there
    apply elsewhere
    rintro rfl
    exact there entry?_staging

end Tree

/-! ### All or nothing -/

namespace SaveRun

variable {ε α : Type}

/-- The trees of a save, with the one that it leaves behind at the end. -/
def trees (run : SaveRun ε α) : List Tree := run.passed ++ [run.left]

/-- A save of some content as the file of a path that happens as a whole or not at all. -/
structure AllOrNothing (t : Tree) (path : String) (content : Option (List UInt8))
    (run : SaveRun ε α) : Prop where
  start : ∀ t' ∈ run.trees, t'.workingDirectory = t.workingDirectory
  destination : ∀ t' ∈ run.trees, ∀ place, t.locate path = .ok place →
    t'.entry? place = t.entry? place ∨ ∃ bytes ∈ content, t'.entry? place = some (.file bytes)
  others : ∀ t' ∈ run.trees, ∀ place, t.locate path ≠ .ok place → t.entry? place ≠ none →
    t'.entry? place = t.entry? place
  tidy : ∀ place, t.locate path ≠ .ok place → run.left.entry? place = t.entry? place
  saved : ∀ a, run.result = .ok a → ∃ bytes ∈ content, run.left.read path = .ok bytes
  unsaved : ∀ e, run.result = .error e → run.left = t

namespace AllOrNothing

variable {t : Tree} {path : String} {content : Option (List UInt8)} {bytes : List UInt8}
  {run : SaveRun ε α}

theorem of_undone (spared : ∀ t' ∈ run.passed, t.Spares path t') (left : run.left = t) {e : ε}
    (failed : run.result = .error e) : run.AllOrNothing t path content := by
  have all : ∀ t' ∈ run.trees, t.Spares path t' := by
    unfold trees
    rw [List.forall_mem_append, List.forall_mem_singleton, left]
    exact ⟨spared, .refl t path⟩
  refine ⟨fun t' member => (all t' member).start, ?_, ?_, ?_, ?_, fun _ _ => left⟩
  · intro t' member place found
    exact .inl ((all t' member).destination place found)
  · intro t' member place _ there
    exact (all t' member).others place there
  · intro place _
    rw [left]
  · intro a done
    cases failed.symm.trans done

theorem of_done (spared : ∀ t' ∈ run.passed, t.Spares path t') {place : Location}
    (reached : t.target path = .ok place) (left : run.left = t.set place (.file bytes)) {a : α}
    (done : run.result = .ok a) : run.AllOrNothing t path (some bytes) := by
  obtain ⟨-, located, free⟩ := Tree.target_eq_ok_iff.1 reached
  have below : place ≠ [] := Tree.ne_nil_of_target reached
  have found : t.locate path = .ok place := Tree.locate_of_locateFile located
  have here : run.left.entry? place = some (.file bytes) := by
    rw [left, Tree.entry?_set below, if_pos rfl]
  have elsewhere : ∀ p, t.locate path ≠ .ok p → run.left.entry? p = t.entry? p := by
    intro p other
    rw [left, Tree.entry?_set below, if_neg]
    rintro rfl
    exact other found
  have member_iff {t' : Tree} : t' ∈ run.trees ↔ t' ∈ run.passed ∨ t' = run.left := by
    unfold trees
    rw [List.mem_append, List.mem_singleton]
  refine ⟨?_, ?_, ?_, elsewhere, ?_, ?_⟩
  · intro t' member
    rcases member_iff.1 member with passed | rfl
    · exact (spared t' passed).start
    · rw [left]
      rfl
  · intro t' member p leads
    rcases member_iff.1 member with passed | rfl
    · exact .inl ((spared t' passed).destination p leads)
    · obtain rfl := Except.ok.inj (found.symm.trans leads)
      exact .inr ⟨bytes, rfl, here⟩
  · intro t' member p other there
    rcases member_iff.1 member with passed | rfl
    · exact (spared t' passed).others p there
    · exact elsewhere p other
  · intro _ _
    have reached' : run.left.target path = .ok place := by
      rw [left]
      exact (Tree.SameDirectories.set_file below free bytes).target_eq_ok_iff.1 reached
    exact ⟨bytes, rfl, (Tree.read_eq_ok_iff_of_target reached').2 here⟩
  · intro e failed
    cases done.symm.trans failed

/-- How a save ends can be told in other words. -/
theorem retold (whole : run.AllOrNothing t path content) {δ γ : Type} {run' : SaveRun δ γ}
    (passed : run'.passed = run.passed) (left : run'.left = run.left)
    (done : ∀ c, run'.result = .ok c → ∃ a, run.result = .ok a)
    (failed : ∀ e, run'.result = .error e → ∃ e', run.result = .error e') :
    run'.AllOrNothing t path content := by
  have same : run'.trees = run.trees := by
    unfold trees
    rw [passed, left]
  refine ⟨?_, ?_, ?_, ?_, ?_, ?_⟩
  · rw [same]
    exact whole.start
  · rw [same]
    exact whole.destination
  · rw [same]
    exact whole.others
  · rw [left]
    exact whole.tidy
  · intro c result
    obtain ⟨a, result⟩ := done c result
    rw [left]
    exact whole.saved a result
  · intro e result
    obtain ⟨e', result⟩ := failed e result
    rw [left]
    exact whole.unsaved e' result

end AllOrNothing

end SaveRun

theorem Tree.Saves.allOrNothing {t : Tree} {path : String} {bytes : List UInt8}
    {fault : Option SaveFault} {run : SaveRun IoError Unit} (saves : Saves t path bytes fault run) :
    run.AllOrNothing t path (some bytes) := by
  cases saves with
  | refused e failed => exact .of_undone (by simp) rfl rfl
  | undone e failed directory part =>
    refine .of_undone ?_ rfl rfl
    simp [Spares.refl, spares_staged]
  | done unharmed place reached directory =>
    refine .of_done ?_ reached rfl rfl
    simp [Spares.refl, spares_staged]

/-- A device that is full after two bytes leaves the old file, in four trees. -/
example :
    let t : Tree := { entries := [(["a.onnx"], .file [1])] }
    let run := t.saveWith (some (.fill 2 (.device "full"))) "a.onnx" [7, 8, 9]
    run.trees.map (·.read "a.onnx") = [.ok [1], .ok [1], .ok [1], .ok [1]] ∧ run.left = t := by
  decide

/-! ### Models, fixtures and runners -/

namespace Model

variable (fault : Option SaveFault) (versions : Versions) (t : Tree) (path : String) (m : Model)

theorem saveWith_allOrNothing :
    (m.saveWith fault versions t path).AllOrNothing t path (m.encode versions).toOption := by
  unfold saveWith
  cases m.encode versions with
  | error e => exact .of_undone (by simp) rfl rfl
  | ok bytes =>
    refine (Tree.saves_saveWith fault t path bytes).allOrNothing.retold rfl rfl ?_ ?_
    · intro u done
      exact ⟨u, mapError_eq_ok_iff.1 done⟩
    · intro e failed
      cases result : (t.saveWith fault path bytes).result with
      | error e' => exact ⟨e', rfl⟩
      | ok u =>
        simp only [result] at failed
        cases failed

theorem saveWith_result_eq_ok_iff :
    (m.saveWith fault versions t path).result = .ok () ↔
      fault = none ∧ (∃ bytes, m.encode versions = .ok bytes) ∧
        ∃ place, t.target path = .ok place := by
  unfold saveWith
  cases encoded : m.encode versions with
  | error e => simp
  | ok bytes =>
    rw [mapError_eq_ok_iff, (Tree.saves_saveWith fault t path bytes).result_eq_ok_iff]
    simp

end Model

namespace Fixture

variable {β : Type}

/-- The bytes that a fixture is saved as, if its builder gives a model that is encoded. -/
def content (builds : β → Build) (versions : Versions) (f : Fixture β) : Option (List UInt8) :=
  (f.toModel (builds f.builder).result).toOption.bind fun model => (model.encode versions).toOption

/-- A fixture is saved as a whole or not at all: with a path as the result, or after an error, and
without ever touching a file if its builder fails or crashes. -/
structure SavesWhole (fault : Option SaveFault) (builds : β → Build) (versions : Versions)
    (directory : String) (f : Fixture β) (t : Tree)
    (run : SaveRun (Fault FixtureError) String) : Prop where
  whole : run.AllOrNothing t (f.path directory) (f.content builds versions)
  done : ∀ path, run.result = .ok path ↔ path = f.path directory ∧ fault = none ∧
    (∃ bytes, f.content builds versions = some bytes) ∧
      ∃ place, t.target (f.path directory) = .ok place
  unbuilt : ∀ cause, (builds f.builder).result = .error cause →
    run.trees = [t] ∧ run.result = .error (cause.map (.build f.name))

variable (f : Fixture β) (fault : Option SaveFault) (versions : Versions) (directory : String)
  (t : Tree) (builds : β → Build)

section

variable (model : Model)

theorem saveModelWith_result_eq_ok_iff {path : String} :
    (f.saveModelWith fault versions directory (.ok model) t).result = .ok path ↔
      path = f.path directory ∧
        (model.saveWith fault versions t (f.path directory)).result = .ok () := by
  unfold saveModelWith
  cases result : (model.saveWith fault versions t (f.path directory)).result with
  | ok u => simp [result, eq_comm]
  | error e => simp [result]

theorem saveModelWith_allOrNothing :
    (f.saveModelWith fault versions directory (.ok model) t).AllOrNothing t (f.path directory)
      (model.encode versions).toOption := by
  refine (model.saveWith_allOrNothing fault versions t (f.path directory)).retold rfl rfl ?_ ?_
  · intro path done
    exact ⟨(), ((saveModelWith_result_eq_ok_iff ..).1 done).2⟩
  · intro e failed
    cases result : (model.saveWith fault versions t (f.path directory)).result with
    | ok u => cases failed.symm.trans ((saveModelWith_result_eq_ok_iff ..).2 ⟨rfl, result⟩)
    | error e' => exact ⟨e', rfl⟩

end

theorem savesWhole_saveModelWith :
    f.SavesWhole fault builds versions directory t
      (f.saveModelWith fault versions directory (f.toModel (builds f.builder).result) t) := by
  cases built : (builds f.builder).result with
  | error cause =>
    refine ⟨.of_undone (by simp [saveModelWith, toModel]) rfl rfl, ?_, ?_⟩
    · simp [saveModelWith, content, toModel, built, Except.toOption]
    · rintro _ same
      obtain rfl := Except.error.inj (built.symm.trans same)
      exact ⟨rfl, rfl⟩
  | ok parts =>
    let model : Model := ⟨parts.toGraph f.name, f.name⟩
    have bytes : f.content builds versions = (model.encode versions).toOption := by
      simp [content, toModel, built, Except.toOption, model]
    have encoded : (∃ bytes, (model.encode versions).toOption = some bytes) ↔
        ∃ bytes, model.encode versions = .ok bytes := by
      cases model.encode versions <;> simp [Except.toOption]
    refine ⟨?_, ?_, ?_⟩
    · rw [bytes]
      exact f.saveModelWith_allOrNothing fault versions directory t model
    · intro path
      rw [bytes, encoded]
      exact (f.saveModelWith_result_eq_ok_iff fault versions directory t model).trans
        (and_congr_right' (model.saveWith_result_eq_ok_iff fault versions t (f.path directory)))
    · intro cause failed
      cases built.symm.trans failed

theorem savesWhole_generateWith (w : Workspace β) :
    f.SavesWhole fault builds versions directory w.tree
      (f.generateWith builds fault versions directory w).2 :=
  savesWhole_saveModelWith f fault versions directory w.tree builds

end Fixture

/-- Whichever step of a save is made to fail, and also if none is, models, fixtures and the
fixtures that runners find under a name are saved as a whole or not at all. A name without a
fixture touches no file. -/
theorem Runner.saves_allOrNothing (fault : Option SaveFault) :
    (∀ (versions : Versions) t path (m : Model),
      (m.saveWith fault versions t path).AllOrNothing t path (m.encode versions).toOption ∧
      ((m.saveWith fault versions t path).result = .ok () ↔
        fault = none ∧ (∃ bytes, m.encode versions = .ok bytes) ∧
          ∃ place, t.target path = .ok place)) ∧
    ∀ {β : Type} (builds : β → Build) (w : Workspace β),
      (∀ versions directory (f : Fixture β),
        let (w', run) := f.generateWith builds fault versions directory w
        w'.tree = run.left ∧ f.SavesWhole fault builds versions directory w.tree run) ∧
      ∀ (r : Runner) (c : Catalogue β) name,
        let (w', run) := r.runOneWith fault builds c name w
        w'.tree = run.left ∧
        (c.get? name = none →
          run.trees = [w.tree] ∧ run.result = .error (.error (.unknownFixture name))) ∧
        ∀ f, c.get? name = some f →
          f.SavesWhole fault builds r.versions r.directory w.tree run := by
  refine ⟨fun versions t path m => ⟨m.saveWith_allOrNothing fault versions t path,
    m.saveWith_result_eq_ok_iff fault versions t path⟩, fun builds w => ⟨?_, ?_⟩⟩
  · intro versions directory f
    exact ⟨rfl, f.savesWhole_generateWith fault versions directory builds w⟩
  · intro r c name
    unfold runOneWith
    cases found : c.get? name with
    | none => exact ⟨rfl, fun _ => ⟨rfl, rfl⟩, nofun⟩
    | some f =>
      refine ⟨rfl, nofun, ?_⟩
      rintro _ same
      obtain rfl := Option.some.inj same
      exact f.savesWhole_generateWith fault r.versions r.directory builds w

end OnnxCorpus
