import OnnxCorpus.Batch
import OnnxCorpus.Proofs.Files.Read

/-!
# Files of a batch

Fixtures whose names hold no slash are saved in one directory, each in a file of its own name. So
the saves of fixtures with different names do not disturb each other: whatever the order, each ends
as it does alone (`result_saveAll`), and the same files are there afterwards (`saveAll_perm`).
-/

namespace OnnxCorpus

open Fallible

/-! ### Paths of files in a directory -/

namespace Path

variable {directory file : String}

theorem isAbsolute_of_plain (plain : '/' ∉ file.toList) : isAbsolute file = false := by
  cases h : file.toList with
  | nil => simp [isAbsolute, h]
  | cons c rest =>
    rw [h, List.mem_cons, not_or] at plain
    simpa [isAbsolute, h] using Ne.symm plain.1

theorem isAbsolute_join (plain : '/' ∉ file.toList) :
    isAbsolute (join directory file) = isAbsolute directory := by
  have relative := isAbsolute_of_plain plain
  by_cases empty : directory = ""
  · rw [join, if_pos (.inr empty), relative, empty]
    rfl
  · obtain ⟨c, rest, h⟩ : ∃ c rest, directory.toList = c :: rest :=
      List.exists_cons_of_ne_nil (by simpa using empty)
    rw [join, if_neg (by simp [relative, empty])]
    split <;> simp [isAbsolute, h]

/-- The path of a file in a directory has the segments of the directory's path, less an empty one
at the end, and the file. -/
theorem exists_segments_join (directory : String) :
    ∃ before, ∀ file, '/' ∉ file.toList →
      segments (join directory file) = before ++ [file] := by
  have alone {file : String} (plain : '/' ∉ file.toList) : segments file = [file] := by
    simp [segments, Text.pieces_of_not_mem plain]
  by_cases empty : directory = ""
  · exact ⟨[], fun file plain => by simp [join, empty, alone plain]⟩
  by_cases ends : directory.toList.getLast? = some '/'
  · obtain ⟨front, split⟩ := List.getLast?_eq_some_iff.1 ends
    refine ⟨(Text.pieces '/' front).map String.ofList, fun file plain => ?_⟩
    have path : (join directory file).toList = front ++ '/' :: file.toList := by
      simp [join, isAbsolute_of_plain plain, empty, split]
    simp [segments, path, Text.pieces_append_cons, Text.pieces_of_not_mem plain]
  · refine ⟨segments directory, fun file plain => ?_⟩
    have path : (join directory file).toList = directory.toList ++ '/' :: file.toList := by
      simp [join, isAbsolute_of_plain plain, empty, ends]
    simp [segments, path, Text.pieces_append_cons, Text.pieces_of_not_mem plain]

end Path

namespace Fixture

variable {β : Type} {f g : Fixture β}

/-- The name of the file that a fixture is saved in. -/
def file (f : Fixture β) : String := f.name ++ "." ++ Model.extension

/-- A fixture whose name holds no slash. -/
def Plain (f : Fixture β) : Prop := '/' ∉ f.name.toList

instance : Decidable f.Plain := inferInstanceAs (Decidable ('/' ∉ f.name.toList))

theorem Plain.file (plain : f.Plain) : '/' ∉ f.file.toList := by
  have ending : '/' ∉ ("." ++ Model.extension).toList := by decide
  rw [Fixture.file, String.append_assoc, String.toList_append, List.mem_append, not_or]
  exact ⟨plain, ending⟩

theorem isName_file (f : Fixture β) : Path.isName f.file := by
  have ending : ("." ++ Model.extension).length = 5 := by decide
  have long : f.file.length = f.name.length + 5 := by
    rw [file, String.append_assoc, String.length_append, ending]
  have different {s : String} (short : s.length < 5) : (f.file == s) = false := by
    refine beq_eq_false_iff_ne.2 fun same => ?_
    rw [same] at long
    omega
  simp [Path.isName, Path.stays, different (show "".length < 5 by decide),
    different (show ".".length < 5 by decide), bne, different (show "..".length < 5 by decide)]

theorem file_injective (same : f.file = g.file) : f.name = g.name := by
  rw [file, file, String.append_assoc, String.append_assoc] at same
  exact (String.append_left_inj _).1 same

/-! ### The target of a fixture -/

variable {t : Tree} {directory : String}

/-- The path of a fixture ends in its file, after segments that are the same for all fixtures, and
starts from the same place. -/
theorem exists_segments_path (directory : String) :
    ∃ before, ∀ f : Fixture β, f.Plain →
      Path.segments (f.path directory) = before ++ [f.file] ∧
        Path.isAbsolute (f.path directory) = Path.isAbsolute directory := by
  obtain ⟨before, split⟩ := Path.exists_segments_join directory
  exact ⟨before, fun f plain => ⟨split _ plain.file, Path.isAbsolute_join plain.file⟩⟩

/-- Fixtures are saved in the same directory. -/
theorem directoryOf_path (plain : f.Plain) (plain' : g.Plain) {p : Location}
    (found : t.directoryOf (g.path directory) = .ok p) :
    t.directoryOf (f.path directory) = .ok p := by
  obtain ⟨before, split⟩ := exists_segments_path (β := β) directory
  obtain ⟨here, from'⟩ := split f plain
  obtain ⟨there, from''⟩ := split g plain'
  rw [Tree.directoryOf_eq_ok_iff there g.isName_file, Tree.start, from''] at found
  rwa [Tree.directoryOf_eq_ok_iff here f.isName_file, Tree.start, from']

/-- The target of a fixture has the name of its file. -/
theorem getLast?_of_target (plain : f.Plain) {place : Location}
    (found : t.target (f.path directory) = .ok place) : place.getLast? = some f.file := by
  obtain ⟨before, split⟩ := exists_segments_path (β := β) directory
  obtain ⟨⟨p, within⟩, located, -⟩ := Tree.target_eq_ok_iff.1 found
  rw [Tree.locateFile_of_directoryOf (split f plain).1 f.isName_file within] at located
  simp only [bind_eq_ok_iff] at located
  obtain ⟨_, _, _, _, placed⟩ := located
  rw [← Except.ok.inj placed, List.getLast?_concat]

section

variable {place : Location} (plain : f.Plain) (plain' : g.Plain) (apart : f.name ≠ g.name)
  (found : t.target (g.path directory) = .ok place) (bytes : List UInt8)

include plain plain' apart found

/-- The directory of a fixture is the same one after a file was put at the target of another
fixture, which is not the place of its own file. -/
theorem exists_directoryOf :
    ∃ p, t.directoryOf (f.path directory) = .ok p ∧
      (t.set place (.file bytes)).directoryOf (f.path directory) = .ok p ∧
      p ++ [f.file] ≠ place := by
  obtain ⟨⟨p, within⟩, -, free⟩ := Tree.target_eq_ok_iff.1 found
  have same := Tree.SameDirectories.set_file (Tree.ne_nil_of_target found) free bytes
  have here := directoryOf_path plain plain' within
  refine ⟨p, here, same.directoryOf_eq_ok here, ?_⟩
  rintro rfl
  have last := getLast?_of_target plain' found
  rw [List.getLast?_concat, Option.some.injEq] at last
  exact apart (file_injective last)

/-- A file put at the target of a fixture is not in the way of another one. -/
theorem target_set :
    (t.set place (.file bytes)).target (f.path directory) = t.target (f.path directory) := by
  obtain ⟨before, split⟩ := exists_segments_path (β := β) directory
  obtain ⟨p, here, here', elsewhere⟩ := exists_directoryOf plain plain' apart found bytes
  rw [Tree.target, Tree.target, here, here',
    Tree.locateFile_of_directoryOf (split f plain).1 f.isName_file here,
    Tree.locateFile_of_directoryOf (split f plain).1 f.isName_file here']
  cases Tree.route (f.path directory) with
  | error e => rfl
  | ok _ =>
    cases Tree.requireName f.file with
    | error e => rfl
    | ok _ => simp [Tree.entry?_set (Tree.ne_nil_of_target found), elsewhere]

/-- A file put at the target of a fixture is not read at the path of another one. -/
theorem read_set :
    (t.set place (.file bytes)).read (f.path directory) = t.read (f.path directory) := by
  obtain ⟨before, split⟩ := exists_segments_path (β := β) directory
  obtain ⟨p, here, here', elsewhere⟩ := exists_directoryOf plain plain' apart found bytes
  rw [Tree.read, Tree.read,
    Tree.locate_of_directoryOf (split f plain).1 f.isName_file here,
    Tree.locate_of_directoryOf (split f plain).1 f.isName_file here']
  cases Tree.route (f.path directory) with
  | error e => rfl
  | ok _ =>
    cases Tree.requireName f.file with
    | error e => rfl
    | ok _ => simp [Tree.entry?_set (Tree.ne_nil_of_target found), elsewhere]

end

/-! ### Saves of fixtures -/

variable {versions : Versions} {built : Except (Fault FixtureError) Model} {t' : Tree}

/-- What the save of a fixture puts at the target of its path, or why it puts nothing there. -/
def delivery (versions : Versions) (f : Fixture β) (built : Except (Fault FixtureError) Model)
    (target : Except IoError Location) : Except (Fault FixtureError) (Location × List UInt8) := do
  let model ← built
  let bytes ← (model.encode versions).mapError fun e => .error (.save f.name (.encode e))
  let place ← target.mapError fun e => .error (.save f.name (.io e))
  .ok (place, bytes)

/-- The tree with what a save puts there. -/
def deliver {ε : Type} (t : Tree) : Except ε (Location × List UInt8) → Tree
  | .ok (place, bytes) => t.set place (.file bytes)
  | .error _ => t

section

variable {ε ε' : Type} {delivery : Except ε (Location × List UInt8)}
  {delivery' : Except ε' (Location × List UInt8)}

theorem deliver_congr (alike : Tree.Alike t t') (below : ∀ d, delivery = .ok d → d.1 ≠ []) :
    Tree.Alike (deliver t delivery) (deliver t' delivery) := by
  cases delivery with
  | error _ => exact alike
  | ok d => exact alike.set (below d rfl) _

theorem deliver_comm (below : ∀ d, delivery = .ok d → d.1 ≠ [])
    (below' : ∀ d, delivery' = .ok d → d.1 ≠ [])
    (apart : ∀ d d', delivery = .ok d → delivery' = .ok d' → d.1 ≠ d'.1) :
    Tree.Alike (deliver (deliver t delivery') delivery)
      (deliver (deliver t delivery) delivery') := by
  cases delivery with
  | error _ => exact .refl _
  | ok d =>
    cases delivery' with
    | error _ => exact .refl _
    | ok d' => exact Tree.set_comm (below' d' rfl) (below d rfl) (apart d d' rfl rfl).symm

end

/-- The save of a fixture ends as its delivery does, and changes nothing else. -/
theorem saveModel_spec (versions : Versions) (directory : String) (f : Fixture β)
    (built : Except (Fault FixtureError) Model) (t : Tree) :
    let delivered := f.delivery versions built (t.target (f.path directory))
    (f.saveModel versions directory built t).2 = delivered.map (fun _ => f.path directory) ∧
      Tree.Alike (f.saveModel versions directory built t).1 (deliver t delivered) := by
  rcases built with fault | model
  · exact ⟨rfl, .refl t⟩
  · cases encoded : model.encode versions with
    | error e =>
      simp [saveModel, saveModelWith, Model.saveWith, delivery, encoded, Except.mapError, deliver,
        Except.map, Tree.Alike.refl]
    | ok bytes =>
      cases targeted : t.target (f.path directory) with
      | error e =>
        obtain ⟨failed, unchanged⟩ : (t.save (f.path directory) bytes).result = _ ∧ _ :=
          Tree.save_of_target_error targeted
        rw [Tree.save] at failed unchanged
        simp [saveModel, saveModelWith, Model.saveWith, delivery, encoded, Except.mapError, deliver,
          Except.map, failed, unchanged, Tree.Alike.refl]
      | ok place =>
        obtain ⟨done, changed⟩ : (t.save (f.path directory) bytes).result = _ ∧ _ :=
          Tree.save_of_target_ok targeted
        rw [Tree.save] at done changed
        simp [saveModel, saveModelWith, Model.saveWith, delivery, encoded, Except.mapError, deliver,
          Except.map, done, changed, Tree.Alike.refl]

/-- A delivery goes to the target. -/
theorem target_of_delivery {target : Except IoError Location} {d : Location × List UInt8}
    (h : f.delivery versions built target = .ok d) : target = .ok d.1 := by
  simp only [delivery, bind_eq_ok_iff, mapError_eq_ok_iff, Except.ok.injEq] at h
  obtain ⟨_, _, _, _, _, reached, rfl⟩ := h
  exact reached

theorem ne_nil_of_delivery (d : Location × List UInt8)
    (h : f.delivery versions built (t.target (f.path directory)) = .ok d) : d.1 ≠ [] :=
  Tree.ne_nil_of_target (target_of_delivery h)

/-- Saves in trees that are alike end alike. -/
theorem saveModel_congr (alike : Tree.Alike t t') :
    (f.saveModel versions directory built t).2 = (f.saveModel versions directory built t').2 ∧
      Tree.Alike (f.saveModel versions directory built t).1
        (f.saveModel versions directory built t').1 := by
  obtain ⟨result, tree⟩ := saveModel_spec versions directory f built t
  obtain ⟨result', tree'⟩ := saveModel_spec versions directory f built t'
  rw [← alike.target_eq] at result' tree'
  exact ⟨result.trans result'.symm,
    tree.trans ((deliver_congr alike ne_nil_of_delivery).trans tree'.symm)⟩

section

variable {built' : Except (Fault FixtureError) Model} (plain : f.Plain) (plain' : g.Plain)
  (apart : f.name ≠ g.name)

include plain plain' apart

/-- A save of another fixture does not move the target of a fixture. -/
theorem target_saveModel :
    (g.saveModel versions directory built' t).1.target (f.path directory) =
      t.target (f.path directory) := by
  obtain ⟨-, tree⟩ := saveModel_spec versions directory g built' t
  rw [tree.target_eq]
  cases delivered : g.delivery versions built' (t.target (g.path directory)) with
  | error _ => rfl
  | ok d => exact target_set plain plain' apart (target_of_delivery delivered) d.2

/-- The file of a fixture is the same before and after the save of another one. -/
theorem read_saveModel :
    (g.saveModel versions directory built' t).1.read (f.path directory) =
      t.read (f.path directory) := by
  obtain ⟨-, tree⟩ := saveModel_spec versions directory g built' t
  rw [tree.read_eq]
  cases delivered : g.delivery versions built' (t.target (g.path directory)) with
  | error _ => rfl
  | ok d => exact read_set plain plain' apart (target_of_delivery delivered) d.2

/-- A fixture is saved with the same result before and after another one. -/
theorem result_saveModel_saveModel :
    (f.saveModel versions directory built (g.saveModel versions directory built' t).1).2 =
      (f.saveModel versions directory built t).2 := by
  rw [(saveModel_spec versions directory f built _).1,
    (saveModel_spec versions directory f built t).1, target_saveModel plain plain' apart]

/-- The saves of two fixtures leave the same files in either order. -/
theorem saveModel_comm :
    Tree.Alike
      (f.saveModel versions directory built (g.saveModel versions directory built' t).1).1
      (g.saveModel versions directory built' (f.saveModel versions directory built t).1).1 := by
  have tree := (saveModel_spec versions directory f built t).2
  have tree' := (saveModel_spec versions directory g built' t).2
  have later := (saveModel_spec versions directory f built
    (g.saveModel versions directory built' t).1).2
  have later' := (saveModel_spec versions directory g built'
    (f.saveModel versions directory built t).1).2
  rw [target_saveModel plain plain' apart] at later
  rw [target_saveModel plain' plain (Ne.symm apart)] at later'
  have elsewhere (d d' : Location × List UInt8)
      (h : f.delivery versions built (t.target (f.path directory)) = .ok d)
      (h' : g.delivery versions built' (t.target (g.path directory)) = .ok d') : d.1 ≠ d'.1 := by
    intro same
    have last := getLast?_of_target plain (target_of_delivery h)
    rw [same, getLast?_of_target plain' (target_of_delivery h'), Option.some.injEq] at last
    exact apart (file_injective last).symm
  exact later.trans <| (deliver_congr tree' ne_nil_of_delivery).trans <|
    (deliver_comm ne_nil_of_delivery ne_nil_of_delivery elsewhere).trans <|
    (deliver_congr tree ne_nil_of_delivery).symm.trans later'.symm

end

end Fixture

/-! ### Saves of many fixtures -/

namespace Batch

variable {β : Type} (builds : β → Build) (r : Runner)

/-- What the builder of a fixture gives, as a model of that fixture. -/
def modelOf (f : Fixture β) : Except (Fault FixtureError) Model :=
  f.toModel (builds f.builder).result

/-- The tree and the result of the save of a fixture. -/
def saveOf (f : Fixture β) (t : Tree) : Tree × Except (Fault FixtureError) String :=
  f.saveModel r.versions r.directory (modelOf builds f) t

/-- The tree after the saves of fixtures. -/
def saveAll (fixtures : List (Fixture β)) (t : Tree) : Tree :=
  fixtures.foldl (fun t f => (saveOf builds r f t).1) t

variable {builds r} {f : Fixture β} {fixtures fixtures' : List (Fixture β)} {t t' : Tree}

theorem saveAll_concat :
    saveAll builds r (fixtures ++ [f]) t = (saveOf builds r f (saveAll builds r fixtures t)).1 := by
  rw [saveAll, List.foldl_append]
  rfl

theorem saveAll_congr (alike : Tree.Alike t t') :
    Tree.Alike (saveAll builds r fixtures t) (saveAll builds r fixtures t') := by
  induction fixtures generalizing t t' with
  | nil => exact alike
  | cons f rest ih => exact ih (Fixture.saveModel_congr alike).2

/-- A fixture is saved with the same result after other fixtures. -/
theorem result_saveAll (plain : f.Plain)
    (others : ∀ g ∈ fixtures, g.Plain ∧ f.name ≠ g.name) :
    (saveOf builds r f (saveAll builds r fixtures t)).2 = (saveOf builds r f t).2 := by
  induction fixtures generalizing t with
  | nil => rfl
  | cons g rest ih =>
    obtain ⟨⟨plain', apart⟩, later⟩ := List.forall_mem_cons.1 others
    exact (ih later).trans (Fixture.result_saveModel_saveModel plain plain' apart)

theorem read_saveAll (plain : f.Plain) (others : ∀ g ∈ fixtures, g.Plain ∧ f.name ≠ g.name) :
    (saveAll builds r fixtures t).read (f.path r.directory) = t.read (f.path r.directory) := by
  induction fixtures generalizing t with
  | nil => rfl
  | cons g rest ih =>
    obtain ⟨⟨plain', apart⟩, later⟩ := List.forall_mem_cons.1 others
    exact (ih later).trans (Fixture.read_saveModel plain plain' apart)

/-- Fixtures with different names leave the same files in any order. -/
theorem saveAll_perm (perm : fixtures.Perm fixtures') (plain : ∀ f ∈ fixtures, f.Plain)
    (distinct : (fixtures.map (·.name)).Nodup) :
    Tree.Alike (saveAll builds r fixtures t) (saveAll builds r fixtures' t) := by
  induction perm generalizing t with
  | nil => exact .refl t
  | cons f _ ih =>
    exact ih (List.forall_mem_cons.1 plain).2 (List.nodup_cons.1 distinct).2
  | swap f g rest =>
    have apart : f.name ≠ g.name := by
      rintro same
      simp [same] at distinct
    exact saveAll_congr (Fixture.saveModel_comm (plain f (by simp)) (plain g (by simp)) apart)
  | trans perm _ ih ih' =>
    exact (ih plain distinct).trans (ih' (fun f member => plain f (perm.mem_iff.2 member))
      ((perm.map _).nodup_iff.1 distinct))

end Batch

end OnnxCorpus
