import OnnxCorpus.CommandLine.Survey
import OnnxCorpus.Proofs.Files.AllOrNothing

/-!
# Making directories

Making the directory of a path and those around it puts new directories at places that the path
leads over. Nothing else changes, also when a directory on the way cannot be made
(`Tree.makes_createDirectories`). So the files are the same ones afterwards.
-/

namespace OnnxCorpus.Tree

open Fallible

variable {t t' t'' : Tree} {start p : Location} {way way' : List Location}
  {segments more reversed : List String}

/-- A place has in a later tree what it has in an earlier one, or it is on a way and has a new
directory. -/
def SameOrMade (way : List Location) (t t' : Tree) (p : Location) : Prop :=
  t'.entry? p = t.entry? p ∨
    (p ∈ way ∧ t.entry? p = none ∧ t'.entry? p = some .directory)

/-- A later tree has what an earlier one has, and besides only new directories on a way. -/
structure Makes (way : List Location) (t t' : Tree) : Prop where
  workingDirectory : t'.workingDirectory = t.workingDirectory
  places : ∀ p, SameOrMade way t t' p

/-- New directories are no files. -/
theorem SameOrMade.entry?_eq_file_iff (same : SameOrMade way t t' p) {bytes : List UInt8} :
    t'.entry? p = some (.file bytes) ↔ t.entry? p = some (.file bytes) := by
  rcases same with same | ⟨-, before, after⟩
  · rw [same]
  · simp [before, after]

namespace Makes

theorem refl (way : List Location) (t : Tree) : Makes way t t := ⟨rfl, fun _ => .inl rfl⟩

theorem trans (first : Makes way t t') (second : Makes way t' t'') : Makes way t t'' := by
  refine ⟨second.workingDirectory.trans first.workingDirectory, fun p => ?_⟩
  rcases second.places p with same | ⟨onWay, none, made⟩
  · unfold SameOrMade
    rw [same]
    exact first.places p
  · rcases first.places p with same | ⟨-, -, made'⟩
    · exact .inr ⟨onWay, same ▸ none, made⟩
    · cases none.symm.trans made'

theorem mono (makes : Makes way t t') (within : way ⊆ way') : Makes way' t t' :=
  ⟨makes.workingDirectory, fun p =>
    (makes.places p).imp_right fun ⟨onWay, rest⟩ => ⟨within onWay, rest⟩⟩

theorem set_directory (below : p ≠ []) (onWay : p ∈ way) (free : t.entry? p = none) :
    Makes way t (t.set p .directory) := by
  refine ⟨rfl, fun q => ?_⟩
  unfold SameOrMade
  rw [entry?_set below]
  by_cases here : q = p
  · subst here
    exact .inr ⟨onWay, free, if_pos rfl⟩
  · exact .inl (if_neg here)

end Makes

/-! ### The way of a path -/

/-- The places that a path leads over. -/
def wayTo (t : Tree) (path : String) : List Location :=
  placesOver (t.start path) (Path.segments path)

theorem placesOver_append (start : Location) (segments more : List String) :
    placesOver start (segments ++ more) =
      placesOver start segments ++ placesOver (segments.foldl placeAfter start) more := by
  induction segments generalizing start with
  | nil => rfl
  | cons segment rest ih =>
    rw [List.cons_append, placesOver, placesOver, ih, List.cons_append, List.foldl_cons]

theorem foldl_mem_placesOver (start : Location) (segments : List String) (segment : String)
    (more : List String) :
    placeAfter (segments.foldl placeAfter start) segment ∈
      placesOver start (segments ++ segment :: more) := by
  rw [placesOver_append, placesOver]
  exact List.mem_append_right _ List.mem_cons_self

theorem placesOver_subset (front : segments <+: more) :
    placesOver start segments ⊆ placesOver start more := by
  obtain ⟨rest, rfl⟩ := front
  rw [placesOver_append]
  exact List.subset_append_left _ _

/-- Segments that can be followed lead to the place that they name. -/
theorem eq_foldl_of_follow (found : t.follow start segments = .ok p) :
    p = segments.foldl placeAfter start := by
  induction segments generalizing start with
  | nil => exact (Except.ok.inj found).symm
  | cons segment rest ih =>
    rw [follow, List.foldlM_cons, bind_eq_ok_iff] at found
    obtain ⟨q, entered, later⟩ := found
    obtain ⟨-, -, rfl⟩ := enter_eq_ok_iff.1 entered
    exact ih later

/-- The paths of the directories around a path are fronts of it. -/
theorem suffix_of_mem_surroundings {around : List String}
    (member : around ∈ surroundings reversed) : around <:+ reversed := by
  induction reversed with
  | nil => cases member
  | cons segment rest ih =>
    rw [surroundings] at member
    split at member
    · exact (ih member).trans (List.suffix_cons _ _)
    · rcases List.mem_cons.1 member with rfl | further
      · exact (List.dropWhile_suffix _).trans (List.suffix_cons _ _)
      · exact (ih further).trans (List.suffix_cons _ _)

/-! ### New directories -/

/-- A directory that is made is new, and on the way of its path. -/
theorem makes_makeDirectory (made : t.makeDirectory start reversed = .ok t') :
    Makes (placesOver start reversed.reverse) t t' := by
  unfold makeDirectory at made
  split at made
  · cases made
  · next name parents found =>
    simp only [bind_eq_ok_iff] at made
    obtain ⟨parent, walked, -, -, made⟩ := made
    obtain rfl := eq_foldl_of_follow walked
    split at made
    · next named =>
      simp only [bind_eq_ok_iff] at made
      obtain ⟨-, -, made⟩ := made
      split at made
      · cases made
      · next free =>
        obtain rfl := Except.ok.inj made
        obtain ⟨blanks, rfl⟩ : ∃ blanks, reversed = blanks ++ name :: parents :=
          ⟨_, by rw [← found, List.takeWhile_append_dropWhile]⟩
        refine .set_directory (by simp) ?_ free
        rw [List.reverse_append, List.reverse_cons, List.append_assoc, List.singleton_append,
          ← placeAfter_of_isName named]
        exact foldl_mem_placesOver start parents.reverse name _
    · cases made

/-- Whether all directories are made or not, those that are made are on the way. -/
theorem makes_makeDirectories {paths : List (List String)}
    (onWay : ∀ reversed ∈ paths, placesOver start reversed.reverse ⊆ way) :
    Makes way t (t.makeDirectories start paths).1 := by
  have one {t t' : Tree} {reversed : List String} (member : reversed ∈ paths)
      (made : t.makeDirectory start reversed = .ok t') : Makes way t t' :=
    (makes_makeDirectory made).mono (onWay reversed member)
  induction paths with
  | nil => exact .refl way t
  | cons reversed around ih =>
    have outer : Makes way t (t.makeDirectories start around).1 :=
      ih (fun _ member => onWay _ (List.mem_cons_of_mem _ member))
        fun member => one (List.mem_cons_of_mem _ member)
    cases reversed with
    | nil => exact .refl way t
    | cons segment rest =>
      unfold makeDirectories
      split
      · next made => exact one List.mem_cons_self made
      · -- The directories around it come first, and then it is tried again.
        generalize t.makeDirectories start around = inner at outer
        obtain ⟨next, _ | _⟩ := inner
        · exact outer
        · dsimp only
          split
          · next made => exact outer.trans (one List.mem_cons_self made)
          · exact outer
      · exact .refl way t

/-- Making the directory of a path changes nothing but that there are new directories on its way. -/
theorem makes_createDirectories (t : Tree) (path : String) :
    Makes (t.wayTo path) t (t.createDirectories path).1 := by
  unfold createDirectories wayTo
  split
  · exact .refl _ t
  · split
    · exact .refl _ t
    · next segments routed =>
      obtain rfl := eq_segments_of_route routed
      refine makes_makeDirectories fun reversed member => placesOver_subset ?_
      rcases List.mem_cons.1 member with rfl | around
      · simp
      · have front := List.reverse_prefix.2 (suffix_of_mem_surroundings around)
        rwa [List.reverse_reverse] at front

end OnnxCorpus.Tree
