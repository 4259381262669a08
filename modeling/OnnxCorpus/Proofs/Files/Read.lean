import OnnxCorpus.Proofs.Files.Save

/-!
# Reading what was saved

A path that a save has a target for is read from there (`read_of_target`). Where the target lies
depends on the directories of a tree alone (`SameDirectories.target_eq_ok_iff`), and a file that is
put at a target makes none and hides none.
-/

namespace OnnxCorpus.Tree

open Fallible

variable {t t' : Tree} {place p : Location} {path : String}

theorem Alike.read_eq (h : Alike t t') : t.read path = t'.read path := by
  have directories : t.requireDirectory = t'.requireDirectory :=
    funext fun q => by rw [requireDirectory, h.entries, requireDirectory]
  have steps : t.enter = t'.enter := by
    funext q segment
    rw [enter, directories, enter]
  simp only [read, locate, follow, steps, start, h.workingDirectory, h.entries]

theorem placeAfter_of_isName {name : String} (named : Path.isName name) :
    placeAfter place name = place ++ [name] := by
  simp only [Path.isName, Bool.and_eq_true, Bool.not_eq_true', bne_iff_ne] at named
  rw [placeAfter, if_neg (Bool.eq_false_iff.1 named.1), if_neg named.2]

/-- A path to a file, which may not be there yet, leads to its place. -/
theorem locate_of_locateFile (found : t.locateFile path = .ok p) : t.locate path = .ok p := by
  simp only [locateFile, bind_eq_ok_iff] at found
  obtain ⟨segments, routed, located⟩ := found
  rw [locate, routed]
  show t.follow (t.start path) segments = .ok p
  cases last : segments.getLast? with
  | none => simp [Path.splitName?, last] at located
  | some name =>
    by_cases named : Path.isName name
    · simp only [Path.splitName?, last, if_pos named, bind_eq_ok_iff] at located
      obtain ⟨parent, walked, _, directory, _, short, same⟩ := located
      obtain ⟨parents, rfl⟩ := List.getLast?_eq_some_iff.1 last
      rw [List.dropLast_concat] at walked
      rw [follow, List.foldlM_append, bind_eq_ok_iff]
      refine ⟨parent, walked, ?_⟩
      have entered : t.enter parent name = .ok p :=
        enter_eq_ok_iff.2 ⟨requireDirectory_eq_ok_iff.1 directory, short,
          (placeAfter_of_isName named).trans (Except.ok.inj same)⟩
      rw [List.foldlM_cons, entered]
      rfl
    · simp [Path.splitName?, last, named] at located

/-- A path leads to the place of its file in its directory. -/
theorem locate_of_directoryOf {before : List String} {name : String}
    (split : Path.segments path = before ++ [name]) (named : Path.isName name)
    (found : t.directoryOf path = .ok p) :
    t.locate path = (do
      let _ ← route path
      requireName name
      .ok (p ++ [name])) := by
  obtain ⟨-, directory⟩ := (directoryOf_eq_ok_iff split named).1 found
  have parent := follow_of_directoryOf split named found
  have entered : t.follow (t.start path) (Path.segments path) = t.enter p name := by
    rw [split, follow, List.foldlM_append]
    show (t.follow (t.start path) before >>= _) = _
    rw [parent, ok_bind, List.foldlM_cons]
    exact bind_pure _
  unfold locate route
  split
  · rfl
  · split
    · rfl
    · split
      · rfl
      · rw [ok_bind, ok_bind, entered, enter, requireDirectory_eq_ok_iff.2 directory,
          placeAfter_of_isName named]
        rfl

/-- What is read at a path is the file at its target. -/
theorem read_of_target (found : t.target path = .ok place) :
    t.read path = match t.entry? place with
      | some (.file bytes) => .ok bytes
      | some .directory => .error .isADirectory
      | none => .error .notFound := by
  rw [read, locate_of_locateFile (target_eq_ok_iff.1 found).2.1]
  rfl

theorem read_eq_ok_iff_of_target (found : t.target path = .ok place) {bytes : List UInt8} :
    t.read path = .ok bytes ↔ t.entry? place = some (.file bytes) := by
  rw [read_of_target found]
  split <;> simp [*]

/-! ### The same directories -/

/-- Trees that start relative paths at one place and have the same directories. -/
structure SameDirectories (t t' : Tree) : Prop where
  workingDirectory : t.workingDirectory = t'.workingDirectory
  directories : ∀ p, t.entry? p = some .directory ↔ t'.entry? p = some .directory

namespace SameDirectories

theorem symm (same : SameDirectories t t') : SameDirectories t' t :=
  ⟨same.workingDirectory.symm, fun p => (same.directories p).symm⟩

theorem trans {t'' : Tree} (same : SameDirectories t t') (same' : SameDirectories t' t'') :
    SameDirectories t t'' :=
  ⟨same.workingDirectory.trans same'.workingDirectory,
    fun p => (same.directories p).trans (same'.directories p)⟩

theorem of_alike (alike : Alike t t') : SameDirectories t t' :=
  ⟨alike.workingDirectory, fun p => by rw [alike.entries]⟩

/-- A file that is put where no directory is. -/
theorem set_file (below : place ≠ []) (free : t.entry? place ≠ some .directory)
    (bytes : List UInt8) : SameDirectories t (t.set place (.file bytes)) := by
  refine ⟨rfl, fun p => ?_⟩
  rw [entry?_set below]
  by_cases here : p = place
  · simp [here, free]
  · rw [if_neg here]

theorem follow_eq_ok (same : SameDirectories t t') {segments : List String}
    (found : t.follow place segments = .ok p) : t'.follow place segments = .ok p :=
  follow_mono (fun q => (same.directories q).1) found

theorem directoryOf_eq_ok (same : SameDirectories t t') (found : t.directoryOf path = .ok p) :
    t'.directoryOf path = .ok p := by
  unfold directoryOf start at found ⊢
  rw [← same.workingDirectory]
  cases around : surroundings (Path.segments path).reverse with
  | nil =>
    simp only [around, ok_bind, bind_unit_eq_ok_iff, requireDirectory_eq_ok_iff] at found ⊢
    exact ⟨(same.directories _).1 found.1, found.2⟩
  | cons segments rest =>
    simp only [around, bind_eq_ok_iff] at found ⊢
    obtain ⟨q, walked, u, directory, arrived⟩ := found
    refine ⟨q, same.follow_eq_ok walked, u, ?_, arrived⟩
    rw [requireDirectory_eq_ok_iff] at directory ⊢
    exact (same.directories q).1 directory

theorem locateFile_eq_ok (same : SameDirectories t t') (found : t.locateFile path = .ok p) :
    t'.locateFile path = .ok p := by
  rw [locateFile, bind_eq_ok_iff] at found ⊢
  obtain ⟨segments, routed, located⟩ := found
  refine ⟨segments, routed, ?_⟩
  rw [start, ← same.workingDirectory]
  split at located
  · cases located
  · simp only [bind_eq_ok_iff] at located ⊢
    obtain ⟨parent, walked, u, directory, rest⟩ := located
    refine ⟨parent, same.follow_eq_ok walked, u, ?_, rest⟩
    rw [requireDirectory_eq_ok_iff] at directory ⊢
    exact (same.directories parent).1 directory

/-- The places that paths lead to depend on the directories of a tree alone. -/
theorem locate_eq_ok_iff (same : SameDirectories t t') :
    t.locate path = .ok place ↔ t'.locate path = .ok place := by
  have one {t t' : Tree} (same : SameDirectories t t') (found : t.locate path = .ok place) :
      t'.locate path = .ok place := by
    obtain ⟨segments, routed, walked⟩ := bind_eq_ok_iff.1 found
    unfold start at walked
    rw [same.workingDirectory] at walked
    exact bind_eq_ok_iff.2 ⟨segments, routed, same.follow_eq_ok walked⟩
  exact ⟨one same, one same.symm⟩

/-- The targets of paths depend on the directories of a tree alone. -/
theorem target_eq_ok_iff (same : SameDirectories t t') :
    t.target path = .ok place ↔ t'.target path = .ok place := by
  have one {t t' : Tree} (same : SameDirectories t t') (found : t.target path = .ok place) :
      t'.target path = .ok place := by
    obtain ⟨⟨p, within⟩, located, free⟩ := Tree.target_eq_ok_iff.1 found
    exact Tree.target_eq_ok_iff.2 ⟨⟨p, same.directoryOf_eq_ok within⟩,
      same.locateFile_eq_ok located, fun taken => free ((same.directories place).2 taken)⟩
  exact ⟨one same, one same.symm⟩

end SameDirectories

end OnnxCorpus.Tree
