import OnnxCorpus.Files.Save
import OnnxCorpus.Proofs.Fallible
import Mathlib.Data.List.TakeWhile

/-!
# What a save does to a tree

`Tree.target` is the place of the file that a save writes, or why there is none. A save with a
target puts its bytes there and changes no other entry (`save_of_target_ok`); a save without one
fails and changes none (`save_of_target_error`). The temporary file is gone either way.
-/

namespace OnnxCorpus.Tree

open Fallible

variable {t t' : Tree} {place p : Location} {entry : Entry} {path : String}

/-! ### Entries -/

@[simp] theorem entry?_nil (t : Tree) : t.entry? [] = some .directory := by
  unfold entry?
  rw [if_pos rfl]

theorem entry?_set (below : place ≠ []) :
    Tree.entry? (t.set place entry) p = if p = place then some entry else t.entry? p := by
  by_cases root : p = []
  · subst root
    simp [Ne.symm below]
  · unfold entry?
    simp [root, set, Table.lookup_insert]

/-- Trees that start relative paths at one place and have the same entries. -/
structure Alike (t t' : Tree) : Prop where
  workingDirectory : t.workingDirectory = t'.workingDirectory
  entries : ∀ p, t.entry? p = t'.entry? p

namespace Alike

variable {t'' : Tree}

theorem refl (t : Tree) : Alike t t := ⟨rfl, fun _ => rfl⟩

theorem symm (h : Alike t t') : Alike t' t :=
  ⟨h.workingDirectory.symm, fun p => (h.entries p).symm⟩

theorem trans (h : Alike t t') (h' : Alike t' t'') : Alike t t'' :=
  ⟨h.workingDirectory.trans h'.workingDirectory, fun p => (h.entries p).trans (h'.entries p)⟩

theorem set (h : Alike t t') (below : place ≠ []) (entry : Entry) :
    Alike (t.set place entry) (t'.set place entry) :=
  ⟨h.workingDirectory, fun p => by rw [entry?_set below, entry?_set below, h.entries]⟩

end Alike

/-- Entries at two places can be put there in any order. -/
theorem set_comm {place' : Location} {entry' : Entry} (below : place ≠ []) (below' : place' ≠ [])
    (apart : place ≠ place') :
    Alike ((t.set place entry).set place' entry') ((t.set place' entry').set place entry) := by
  refine ⟨rfl, fun p => ?_⟩
  simp only [entry?_set below, entry?_set below']
  by_cases here : p = place
  · simp [here, apart]
  · simp [here]

theorem le_foldl_max {xs : List Nat} {n start : Nat} (h : n ≤ start ∨ n ∈ xs) :
    n ≤ xs.foldl max start := by
  induction xs generalizing start with
  | nil => simpa using h
  | cons x rest ih =>
    refine ih ?_
    rcases h with small | member
    · exact .inl (Nat.le_trans small (Nat.le_max_left _ _))
    · rcases List.mem_cons.1 member with rfl | later
      · exact .inl (Nat.le_max_right _ _)
      · exact .inr later

/-- The name of a temporary file is longer than all names on the way to an entry. -/
theorem length_lt_freshName (t : Tree) (path : String) (member : (place, entry) ∈ t.entries)
    {name : String} (onTheWay : name ∈ place) : name.length < (t.freshName path).length := by
  simp only [freshName, String.length_ofList, List.length_replicate]
  refine Nat.lt_succ_of_le ?_
  have among : name.length ≤ (place.map String.length).foldl max 0 :=
    le_foldl_max (.inr (List.mem_map_of_mem onTheWay))
  exact Nat.le_trans among (le_foldl_max (.inr (List.mem_map_of_mem member)))

/-- No entry has the name that is made for a temporary file. -/
theorem entry?_freshName (t : Tree) (path : String) (directory : Location) :
    t.entry? (directory ++ [t.freshName path]) = none := by
  have nowhere : Table.lookup (directory ++ [t.freshName path]) t.entries = none := by
    refine Option.eq_none_iff_forall_ne_some.2 fun entry found => ?_
    have member := Table.mem_of_lookup_eq_some found
    exact Nat.lt_irrefl _ (length_lt_freshName t path member (List.mem_append_right _ (by simp)))
  unfold entry?
  rw [if_neg (by simp), nowhere]

/-! ### Places of paths -/

theorem requireDirectory_eq_ok_iff :
    t.requireDirectory place = .ok () ↔ t.entry? place = some .directory := by
  rw [requireDirectory]
  split <;> simp [*]

theorem enter_eq_ok_iff {segment : String} :
    t.enter place segment = .ok p ↔
      t.entry? place = some .directory ∧ requireName segment = .ok () ∧
        placeAfter place segment = p := by
  simp only [enter, bind_unit_eq_ok_iff, requireDirectory_eq_ok_iff, Except.ok.injEq]

/-- Segments that lead to a place still do so once there are more directories. -/
theorem follow_mono (kept : ∀ q, t.entry? q = some .directory → t'.entry? q = some .directory)
    {segments : List String} (found : t.follow place segments = .ok p) :
    t'.follow place segments = .ok p := by
  induction segments generalizing place with
  | nil => exact found
  | cons segment rest ih =>
    rw [follow, List.foldlM_cons, bind_eq_ok_iff] at found ⊢
    obtain ⟨q, entered, later⟩ := found
    obtain ⟨directory, named, arrived⟩ := enter_eq_ok_iff.1 entered
    exact ⟨q, enter_eq_ok_iff.2 ⟨kept _ directory, named, arrived⟩, ih later⟩

section

variable {before : List String} {name : String}

theorem directoryOf_eq_ok_iff (split : Path.segments path = before ++ [name])
    (named : Path.isName name) :
    t.directoryOf path = .ok p ↔
      t.follow (t.start path) (before.reverse.dropWhile Path.stays).reverse = .ok p ∧
        t.entry? p = some .directory := by
  have moves : Path.stays name = false := by
    simp only [Path.isName, Bool.and_eq_true, Bool.not_eq_true'] at named
    exact named.1
  have around : surroundings (Path.segments path).reverse =
      before.reverse.dropWhile Path.stays :: surroundings before.reverse := by
    simp [split, surroundings, moves]
  rw [directoryOf, around, bind_eq_ok_iff]
  simp only [bind_unit_eq_ok_iff, requireDirectory_eq_ok_iff, Except.ok.injEq]
  constructor
  · rintro ⟨q, walked, directory, rfl⟩
    exact ⟨walked, directory⟩
  · rintro ⟨walked, directory⟩
    exact ⟨p, walked, directory, rfl⟩

/-- In a directory, segments that stay where they are lead to it. -/
theorem follow_append_of_stays {segments stay : List String}
    (found : t.follow place segments = .ok p) (directory : t.entry? p = some .directory)
    (stays : ∀ segment ∈ stay, Path.stays segment) :
    t.follow place (segments ++ stay) = .ok p := by
  rw [follow, List.foldlM_append, bind_eq_ok_iff]
  refine ⟨p, found, ?_⟩
  clear found
  induction stay with
  | nil => rfl
  | cons segment rest ih =>
    obtain ⟨here, later⟩ := List.forall_mem_cons.1 stays
    have short : requireName segment = .ok () := by
      have shape : segment = "" ∨ segment = "." := by simpa [Path.stays] using here
      rcases shape with rfl | rfl <;> rfl
    rw [List.foldlM_cons, enter_eq_ok_iff.2 ⟨directory, short, by rw [placeAfter, if_pos here]⟩]
    exact ih later

/-- The segments before the last name of a path lead to its directory. -/
theorem follow_of_directoryOf (split : Path.segments path = before ++ [name])
    (named : Path.isName name) (found : t.directoryOf path = .ok p) :
    t.follow (t.start path) before = .ok p := by
  obtain ⟨walked, directory⟩ := (directoryOf_eq_ok_iff split named).1 found
  have parts : before = (before.reverse.dropWhile Path.stays).reverse ++
      (before.reverse.takeWhile Path.stays).reverse := by
    rw [← List.reverse_append, List.takeWhile_append_dropWhile, List.reverse_reverse]
  rw [parts]
  exact follow_append_of_stays walked directory fun segment member =>
    List.mem_takeWhile_imp (List.mem_reverse.1 member)

/-- The file of a path lies in its directory, under its last name. -/
theorem locateFile_of_directoryOf (split : Path.segments path = before ++ [name])
    (named : Path.isName name) (found : t.directoryOf path = .ok p) :
    t.locateFile path = (do
      let _ ← route path
      requireName name
      .ok (p ++ [name])) := by
  obtain ⟨-, directory⟩ := (directoryOf_eq_ok_iff split named).1 found
  have parent := follow_of_directoryOf split named found
  have ends : Path.splitName? (Path.segments path) = some (before, name) := by
    simp [Path.splitName?, split, named]
  rw [locateFile, route]
  split
  · rfl
  · split
    · rfl
    · split
      · rfl
      · simp only [ok_bind, ends, parent, requireDirectory_eq_ok_iff.2 directory]

end

/-! ### Saves -/

/-- The place of the file that a save writes, or why it writes none. -/
def target (t : Tree) (path : String) : Except IoError Location := do
  let _ ← t.directoryOf path
  let place ← t.locateFile path
  if t.entry? place = some .directory then .error .isADirectory else .ok place

/-- What a path means depends on the entries of a tree alone, and on where it starts. -/
theorem Alike.target_eq (h : Alike t t') : t.target path = t'.target path := by
  have directories : t.requireDirectory = t'.requireDirectory :=
    funext fun q => by rw [requireDirectory, h.entries, requireDirectory]
  have steps : t.enter = t'.enter := by
    funext q segment
    rw [enter, directories, enter]
  have walks : t.follow = t'.follow := by
    funext q segments
    rw [follow, steps, follow]
  simp only [target, directoryOf, locateFile, directories, walks, start, h.workingDirectory,
    h.entries]

theorem target_eq_ok_iff :
    t.target path = .ok place ↔
      (∃ directory, t.directoryOf path = .ok directory) ∧ t.locateFile path = .ok place ∧
        t.entry? place ≠ some .directory := by
  simp only [target, bind_eq_ok_iff]
  constructor
  · rintro ⟨directory, here, located, reached, free⟩
    split at free
    · cases free
    · next unoccupied =>
      obtain rfl := Except.ok.inj free
      exact ⟨⟨directory, here⟩, reached, unoccupied⟩
  · rintro ⟨⟨directory, here⟩, reached, unoccupied⟩
    exact ⟨directory, here, place, reached, if_neg unoccupied⟩

theorem ne_nil_of_locateFile (found : t.locateFile path = .ok p) : p ≠ [] := by
  simp only [locateFile, bind_eq_ok_iff] at found
  obtain ⟨segments, -, located⟩ := found
  split at located
  · cases located
  · simp only [bind_eq_ok_iff] at located
    obtain ⟨_, _, _, _, _, _, result⟩ := located
    obtain rfl := Except.ok.inj result
    simp

theorem ne_nil_of_target (found : t.target path = .ok p) : p ≠ [] :=
  ne_nil_of_locateFile (target_eq_ok_iff.1 found).2.1

/-- The place of the temporary file of a save in a directory. -/
def staging (t : Tree) (path : String) (directory : Location) : Location :=
  directory ++ [t.freshName path]

/-- The tree of a save in a directory once its temporary file is filled. -/
def filled (t : Tree) (path : String) (directory : Location) (bytes : List UInt8) : Tree :=
  (t.set (t.staging path directory) (.file [])).set (t.staging path directory) (.file bytes)

section

variable {directory : Location} {bytes : List UInt8}

theorem staging_ne_nil : t.staging path directory ≠ [] := by
  simp [staging]

/-- There is nothing yet at the place of a temporary file. -/
theorem entry?_staging : t.entry? (t.staging path directory) = none :=
  entry?_freshName t path directory

theorem filled_eq :
    t.filled path directory bytes = t.set (t.staging path directory) (.file bytes) := by
  unfold filled set
  rw [Table.insert_insert]

/-- Without its temporary file, the tree of a save is the one before it. -/
theorem erase_staged :
    (t.set (t.staging path directory) entry).erase (t.staging path directory) = t := by
  have others : ∀ e ∈ t.entries, e.1 ≠ t.staging path directory := by
    rintro ⟨place, entry⟩ member rfl
    have last : t.freshName path ∈ t.staging path directory := by simp [staging]
    have short := length_lt_freshName t path member last
    omega
  unfold erase set
  rw [Table.erase_insert]
  unfold Table.erase
  rw [List.filter_eq_self.2 fun e member => decide_eq_true (others e member)]

/-- A filled temporary file replaces what is at a place, unless that is a directory. -/
theorem rename_filled :
    (t.filled path directory bytes).rename (t.staging path directory) place =
      if t.entry? place = some .directory then .error .isADirectory
      else .ok (t.set place (.file bytes)) := by
  have source : Tree.entry? (t.set (t.staging path directory) (.file bytes))
      (t.staging path directory) = some (.file bytes) := by
    rw [entry?_set staging_ne_nil, if_pos rfl]
  rw [filled_eq, rename, source, entry?_set staging_ne_nil, erase_staged]
  by_cases here : place = t.staging path directory
  · simp [here, entry?_staging]
  · rw [if_neg here]
    rcases t.entry? place with _ | _ | _ <;> rfl

/-- The renaming of a filled temporary file succeeds where a save has its target. -/
theorem rename_target (found : t.directoryOf path = .ok directory) :
    (t.locateFile path).bind
        ((t.filled path directory bytes).rename (t.staging path directory)) =
      (t.target path).map fun place => t.set place (.file bytes) := by
  unfold target
  rw [found, ok_bind]
  cases t.locateFile path with
  | error e => rfl
  | ok place =>
    show (t.filled path directory bytes).rename (t.staging path directory) place = _
    rw [rename_filled, ok_bind]
    split
    · rfl
    · rfl

/-- What a save comes to: it is refused before it starts, it is undone with its temporary file
removed again, or it is done. Where no step is made to fail, that depends on its target alone. -/
inductive Saves (t : Tree) (path : String) (bytes : List UInt8) (fault : Option SaveFault) :
    SaveRun IoError Unit → Prop
  | refused (e : IoError) (failed : fault = none → t.target path = .error e) :
    Saves t path bytes fault ⟨[], t, .error e⟩
  | undone (e : IoError) (failed : fault = none → t.target path = .error e)
    (directory : Location) (part : List UInt8) :
    Saves t path bytes fault ⟨[t, t.set (t.staging path directory) (.file []),
      t.set (t.staging path directory) (.file part)], t, .error e⟩
  | done (unharmed : fault = none) (place : Location) (reached : t.target path = .ok place)
    (directory : Location) :
    Saves t path bytes fault ⟨[t, t.set (t.staging path directory) (.file []),
      t.set (t.staging path directory) (.file bytes)], t.set place (.file bytes), .ok ()⟩

namespace Saves

variable {fault : Option SaveFault} {run : SaveRun IoError Unit}

/-- A save is done exactly if it has a target and no step of it is made to fail. -/
theorem result_eq_ok_iff (saves : Saves t path bytes fault run) :
    run.result = .ok () ↔ fault = none ∧ ∃ place, t.target path = .ok place := by
  cases saves with
  | refused e failed | undone e failed =>
    refine iff_of_false nofun ?_
    rintro ⟨unharmed, place, reached⟩
    cases (failed unharmed).symm.trans reached
  | done unharmed place reached => exact iff_of_true rfl ⟨unharmed, place, reached⟩

/-- A save leaves the tree it started from, or that tree with its bytes at its target. -/
theorem left_eq (saves : Saves t path bytes fault run) :
    (∃ e, run.result = .error e) ∧ run.left = t ∨
      run.result = .ok () ∧
        ∃ place, t.target path = .ok place ∧ run.left = t.set place (.file bytes) := by
  cases saves with
  | refused e failed | undone e failed => exact .inl ⟨⟨e, rfl⟩, rfl⟩
  | done unharmed place reached => exact .inr ⟨rfl, place, reached, rfl⟩

end Saves

/-- A save that fails once it has its temporary file leaves the tree it started from. -/
theorem finishSave_error (part : List UInt8) (e : IoError) :
    finishSave [t, t.set (t.staging path directory) (.file [])] (t.filled path directory part)
        (t.staging path directory) (.error e) =
      ⟨[t, t.set (t.staging path directory) (.file []),
        t.set (t.staging path directory) (.file part)], t, .error e⟩ := by
  unfold finishSave
  rw [filled_eq, erase_staged]
  rfl

theorem saves_saveWith (fault : Option SaveFault) (t : Tree) (path : String)
    (bytes : List UInt8) : Saves t path bytes fault (t.saveWith fault path bytes) := by
  unfold saveWith
  cases found : t.directoryOf path with
  | error e =>
    refine .refused e fun _ => ?_
    rw [target, found]
    rfl
  | ok directory =>
    have undone (part : List UInt8) (e : IoError)
        (failed : fault = none → t.target path = .error e) : Saves t path bytes fault
          (finishSave [t, t.set (t.staging path directory) (.file [])]
            (t.filled path directory part) (t.staging path directory) (.error e)) := by
      rw [finishSave_error]
      exact .undone e failed directory part
    rcases fault with _ | e | ⟨written, e⟩ | e
    · show Saves t path bytes none (finishSave _ (t.filled path directory bytes)
        (t.staging path directory) ((t.locateFile path).bind
          ((t.filled path directory bytes).rename (t.staging path directory))))
      rw [rename_target found]
      cases reached : t.target path with
      | error e => exact undone bytes e fun _ => reached
      | ok place =>
        show Saves t path bytes none ⟨[t, t.set (t.staging path directory) (.file []),
          t.filled path directory bytes], t.set place (.file bytes), .ok ()⟩
        rw [filled_eq]
        exact .done rfl place reached directory
    · exact .refused e nofun
    · exact undone (bytes.take written) e nofun
    · exact undone bytes e nofun

/-- A save without a target fails and changes nothing. -/
theorem save_of_target_error {e : IoError} (refused : t.target path = .error e) :
    (t.save path bytes).result = .error e ∧ (t.save path bytes).left = t := by
  have saves : Saves t path bytes none (t.save path bytes) := saves_saveWith none t path bytes
  generalize t.save path bytes = run at saves ⊢
  cases saves with
  | refused e' failed | undone e' failed =>
    obtain rfl := Except.error.inj (refused.symm.trans (failed rfl))
    exact ⟨rfl, rfl⟩
  | done _ place reached => cases refused.symm.trans reached

/-- A save with a target puts its bytes there and changes nothing else. -/
theorem save_of_target_ok (found : t.target path = .ok place) :
    (t.save path bytes).result = .ok () ∧
      (t.save path bytes).left = t.set place (.file bytes) := by
  have saves : Saves t path bytes none (t.save path bytes) := saves_saveWith none t path bytes
  generalize t.save path bytes = run at saves ⊢
  cases saves with
  | refused e failed | undone e failed => cases found.symm.trans (failed rfl)
  | done _ place' reached =>
    obtain rfl := Except.ok.inj (found.symm.trans reached)
    exact ⟨rfl, rfl⟩

end

end OnnxCorpus.Tree
