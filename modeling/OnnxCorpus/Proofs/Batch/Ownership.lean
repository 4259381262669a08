import OnnxCorpus.Proofs.Batch.Parallel
import OnnxCorpus.Proofs.Format.Injective

/-!
# Whose file it is

Saves make no directories, so that a fixture of a batch is saved where it would be saved in the tree
at the start (`destination?`), whatever is saved before. The file there is that of the last fixture
saved there. Since the models of two fixtures name different producers, a batch leaves every fixture
its own file exactly if no two of its fixtures have one destination (`filesOwned_iff`). Names that
hold no slash see to that; different names alone do not.
-/

namespace OnnxCorpus

open Fallible

namespace Batch

variable {β : Type} (builds : β → Build) (r : Runner)

/-- What the save of a fixture puts into a tree, and where. -/
def deliveryIn (t : Tree) (f : Fixture β) : Except (Fault FixtureError) (Location × List UInt8) :=
  f.delivery r.versions (modelOf builds f) (t.target (f.path r.directory))

/-- The place of the file that a fixture is saved in, unless it fails. -/
def destination? (t : Tree) (f : Fixture β) : Option Location :=
  (deliveryIn builds r t f).toOption.map (·.1)

/-- No two fixtures are saved in one place. -/
def Apart (t : Tree) (fixtures : List (Fixture β)) : Prop :=
  ∀ f ∈ fixtures, ∀ g ∈ fixtures, ∀ place,
    destination? builds r t f = some place → destination? builds r t g = some place → f = g

/-- A path has the file of a fixture's own model. -/
def HoldsOwn (t : Tree) (path : String) (f : Fixture β) : Prop :=
  ∃ model bytes, modelOf builds f = .ok model ∧ model.encode r.versions = .ok bytes ∧
    t.read path = .ok bytes

/-- Every fixture that a batch wrote is the one whose file its path has. -/
def FilesOwned (selected : List (Fixture β)) (run : Workspace β × List (String × Outcome)) : Prop :=
  ∀ f ∈ selected, ∀ path, (f.name, .written path) ∈ run.2 → HoldsOwn builds r run.1.tree path f

variable {builds r} {fixtures : List (Fixture β)} {f g : Fixture β} {t t' : Tree}
  {place : Location} {bytes : List UInt8}

theorem deliveryIn_eq_ok_iff :
    deliveryIn builds r t f = .ok (place, bytes) ↔
      ∃ model, modelOf builds f = .ok model ∧ model.encode r.versions = .ok bytes ∧
        t.target (f.path r.directory) = .ok place := by
  simp [deliveryIn, Fixture.delivery, bind_eq_ok_iff, mapError_eq_ok_iff]

theorem destination?_eq_some_iff :
    destination? builds r t f = some place ↔
      ∃ bytes, deliveryIn builds r t f = .ok (place, bytes) := by
  unfold destination?
  cases deliveryIn builds r t f with
  | error e => simp [Except.toOption]
  | ok d =>
    obtain ⟨p, bytes⟩ := d
    simp [Except.toOption]

/-- A model is named after its fixture. -/
theorem producer_of_modelOf {model : Model} (built : modelOf builds f = .ok model) :
    model.producer = f.name := by
  unfold modelOf Fixture.toModel at built
  split at built
  · obtain rfl := Except.ok.inj built
    rfl
  · cases built

/-- The file of a model tells which fixture it is the model of. -/
theorem name_eq_of_encode {model model' : Model} {versions : Versions}
    (built : modelOf builds f = .ok model) (built' : modelOf builds g = .ok model')
    (encoded : model.encode versions = .ok bytes) (encoded' : model'.encode versions = .ok bytes) :
    f.name = g.name := by
  have producer := Model.producer_eq_of_toFields (Model.toFields_eq_of_encode encoded encoded')
  rwa [producer_of_modelOf built, producer_of_modelOf built'] at producer

/-! ### Saves keep the directories -/

theorem deliveryIn_congr (same : Tree.SameDirectories t t') :
    deliveryIn builds r t f = .ok (place, bytes) ↔
      deliveryIn builds r t' f = .ok (place, bytes) := by
  simp only [deliveryIn_eq_ok_iff, same.target_eq_ok_iff]

theorem sameDirectories_saveOf (f : Fixture β) (t : Tree) :
    Tree.SameDirectories t (saveOf builds r f t).1 := by
  obtain ⟨-, alike⟩ := Fixture.saveModel_spec r.versions r.directory f (modelOf builds f) t
  refine .trans ?_ (.of_alike alike.symm)
  cases delivered : f.delivery r.versions (modelOf builds f) (t.target (f.path r.directory)) with
  | error e => exact .of_alike (.refl t)
  | ok d =>
    have reached := Fixture.target_of_delivery delivered
    exact .set_file (Tree.ne_nil_of_target reached) (Tree.target_eq_ok_iff.1 reached).2.2 d.2

theorem sameDirectories_saveAll (fixtures : List (Fixture β)) (t : Tree) :
    Tree.SameDirectories t (saveAll builds r fixtures t) := by
  induction fixtures generalizing t with
  | nil => exact .of_alike (.refl t)
  | cons f rest ih => exact (sameDirectories_saveOf f t).trans (ih _)

/-- The entry at a place after a save. -/
theorem entry?_saveOf (p : Location) :
    Tree.entry? (saveOf builds r f t).1 p =
      match deliveryIn builds r t f with
      | .ok (place, bytes) => if p = place then some (.file bytes) else t.entry? p
      | .error _ => t.entry? p := by
  obtain ⟨-, alike⟩ := Fixture.saveModel_spec r.versions r.directory f (modelOf builds f) t
  refine (alike.entries p).trans ?_
  show Tree.entry? (Fixture.deliver t (deliveryIn builds r t f)) p = _
  cases delivered : deliveryIn builds r t f with
  | error e => rfl
  | ok d => exact Tree.entry?_set (Fixture.ne_nil_of_delivery d delivered)

/-- A fixture that is alone in being saved at its destination has its file there at the end. -/
theorem entry?_saveAll (member : f ∈ fixtures)
    (delivered : deliveryIn builds r t f = .ok (place, bytes))
    (alone : ∀ g ∈ fixtures, destination? builds r t g = some place → g = f) :
    Tree.entry? (saveAll builds r fixtures t) place = some (.file bytes) := by
  induction fixtures using List.reverseRecOn with
  | nil => cases member
  | append_singleton before g ih =>
    have same : Tree.SameDirectories t (saveAll builds r before t) :=
      sameDirectories_saveAll before t
    rw [saveAll_concat, entry?_saveOf]
    by_cases own : g = f
    · subst own
      simp [(deliveryIn_congr same).1 delivered]
    · have among : f ∈ before := by simpa [Ne.symm own] using member
      have earlier : Tree.entry? (saveAll builds r before t) place = some (.file bytes) :=
        ih among fun h listed => alone h (List.mem_append_left _ listed)
      cases last : deliveryIn builds r (saveAll builds r before t) g with
      | error e => exact earlier
      | ok d =>
        have elsewhere : place ≠ d.1 := by
          rintro rfl
          have first : deliveryIn builds r t g = .ok (d.1, d.2) := (deliveryIn_congr same).2 last
          exact own (alone g (by simp) (destination?_eq_some_iff.2 ⟨d.2, first⟩))
        exact (if_neg elsewhere).trans earlier

theorem destination?_congr (same : Tree.SameDirectories t t') :
    destination? builds r t f = some place ↔ destination? builds r t' f = some place := by
  simp only [destination?_eq_some_iff, deliveryIn_congr same]

/-- A save without a destination changes nothing. -/
theorem alike_saveOf (nowhere : destination? builds r t f = none) :
    Tree.Alike (saveOf builds r f t).1 t := by
  obtain ⟨-, alike⟩ := Fixture.saveModel_spec r.versions r.directory f (modelOf builds f) t
  have refused : Fixture.deliver t (deliveryIn builds r t f) = t := by
    cases delivered : deliveryIn builds r t f with
    | error e => rfl
    | ok d => cases nowhere.symm.trans (destination?_eq_some_iff.2 ⟨d.2, delivered⟩)
  rwa [← deliveryIn, refused] at alike

/-- The saves of fixtures without a destination can be left out. -/
theorem saveAll_filter {kept : Fixture β → Bool}
    (nowhere : ∀ f ∈ fixtures, kept f = false → destination? builds r t f = none) :
    Tree.Alike (saveAll builds r fixtures t) (saveAll builds r (fixtures.filter kept) t) := by
  induction fixtures generalizing t with
  | nil => exact .refl t
  | cons f rest ih =>
    obtain ⟨here, later⟩ := List.forall_mem_cons.1 nowhere
    cases keep : kept f with
    | false =>
      rw [List.filter_cons_of_neg (by simp [keep])]
      exact (saveAll_congr (alike_saveOf (here keep))).trans (ih later)
    | true =>
      rw [List.filter_cons_of_pos keep]
      refine ih fun g member drop => Option.eq_none_iff_forall_ne_some.2 fun place reached => ?_
      cases (later g member drop).symm.trans
        ((destination?_congr (sameDirectories_saveOf f t)).2 reached)

/-- Saves change nothing at a place that is the destination of none of them. -/
theorem entry?_saveAll_of_elsewhere
    (elsewhere : ∀ f ∈ fixtures, destination? builds r t f ≠ some place) :
    Tree.entry? (saveAll builds r fixtures t) place = t.entry? place := by
  induction fixtures generalizing t with
  | nil => rfl
  | cons f rest ih =>
    obtain ⟨here, later⟩ := List.forall_mem_cons.1 elsewhere
    have same : Tree.SameDirectories t (saveOf builds r f t).1 := sameDirectories_saveOf f t
    have kept : Tree.entry? (saveOf builds r f t).1 place = t.entry? place := by
      rw [entry?_saveOf]
      split
      · next p bytes delivered =>
        refine if_neg ?_
        rintro rfl
        exact here (destination?_eq_some_iff.2 ⟨bytes, delivered⟩)
      · rfl
    exact (ih fun g member => mt (destination?_congr same).2 (later g member)).trans kept

/-! ### Who is written where -/

theorem result_saveOf :
    (saveOf builds r f t).2 = (deliveryIn builds r t f).map fun _ => f.path r.directory :=
  (Fixture.saveModel_spec r.versions r.directory f (modelOf builds f) t).1

theorem outcomeIn_eq_written_iff {path : String} :
    outcomeIn builds r t f = .written path ↔
      path = f.path r.directory ∧ ∃ place, destination? builds r t f = some place := by
  rw [outcomeIn, result_saveOf]
  unfold destination?
  rcases deliveryIn builds r t f with (_ | _) | d <;>
    simp [Outcome.ofResult, Except.map, Except.toOption, eq_comm]

/-- A fixture that is started is written or fails. -/
theorem outcomeIn_cases :
    outcomeIn builds r t f = .written (f.path r.directory) ∨
      ∃ cause, outcomeIn builds r t f = .failed cause := by
  rw [outcomeIn, result_saveOf]
  rcases deliveryIn builds r t f with (cause | text) | d
  · exact .inr ⟨cause, rfl⟩
  · exact .inr ⟨.crashed f.name text, rfl⟩
  · exact .inl rfl

/-- Fixtures that are saved in different places have their own files after all of them are saved. -/
theorem holdsOwn_saveAll (apart : Apart builds r t fixtures) (member : f ∈ fixtures)
    (reached : destination? builds r t f = some place) :
    HoldsOwn builds r (saveAll builds r fixtures t) (f.path r.directory) f := by
  obtain ⟨bytes, delivered⟩ := destination?_eq_some_iff.1 reached
  obtain ⟨model, built, encoded, targeted⟩ := deliveryIn_eq_ok_iff.1 delivered
  have same : Tree.SameDirectories t (saveAll builds r fixtures t) :=
    sameDirectories_saveAll fixtures t
  refine ⟨model, bytes, built, encoded,
    (Tree.read_eq_ok_iff_of_target (same.target_eq_ok_iff.1 targeted)).2 ?_⟩
  refine entry?_saveAll member delivered fun g among there => ?_
  exact apart g among f member place there reached

section

variable {selected : List (Fixture β)} {workers : Nat} {w : Workspace β} {s : State β}
  {order : List Nat} (accounts : Accounts builds r selected w.calls s)
  (serial : Serial builds r selected (.initial workers w) s order) (done : s.isDone)
  (manned : 0 < s.workers.length)
  (unrefused : ∀ entry ∈ s.collect selected, entry.2 ≠ .cancelled)

include accounts serial done manned unrefused

/-- In a batch that has ended and refused nothing, every fixture was saved, after some others. -/
theorem exists_entry {i : Nat} (here : selected[i]? = some f) :
    f ∈ fixturesAt selected order ∧ ∃ before,
      (s.collect selected)[i]? = some (f.name, outcomeIn builds r
        (saveAll builds r (fixturesAt selected before) w.tree) f) := by
  have inside : i < (s.collect selected).length := by
    rw [accounts.length_collect done manned]
    exact (List.getElem?_eq_some_iff.1 here).1
  have entry := List.getElem?_eq_getElem inside
  obtain ⟨g, there, named, finished⟩ := (accounts.getElem?_collect_eq_some_iff done manned).1 entry
  obtain rfl := Option.some.inj (here.symm.trans there)
  have started := unrefused _ (List.getElem_mem inside)
  constructor
  · have saved : i ∈ s.saved :=
      (Multiset.mem_filterMap _ _).2 ⟨_, finished, if_neg started⟩
    have none : (State.initial workers w).saved = 0 := filterMap_pool_initial rfl workers w
    rw [serial.saved, none, add_zero] at saved
    exact List.mem_filterMap.2 ⟨i, Multiset.mem_coe.1 saved, here⟩
  · rcases serial.outcomes _ finished with refused | already | ⟨before, -, since⟩
    · exact absurd refused started
    · cases eq_idle_of_mem_initial already
    · refine ⟨before, entry.trans ?_⟩
      rw [Option.some.injEq]
      exact Prod.ext named (since f here)

variable (distinct : (selected.map (·.name)).Nodup)

include distinct

/-- What is written is what has a destination in the tree at the start. -/
theorem mem_collect_written_iff (member : f ∈ selected) {path : String} :
    (f.name, .written path) ∈ s.collect selected ↔
      path = f.path r.directory ∧ ∃ place, destination? builds r w.tree f = some place := by
  have same (before : List Nat) :
      Tree.SameDirectories w.tree (saveAll builds r (fixturesAt selected before) w.tree) :=
    sameDirectories_saveAll _ _
  constructor
  · intro among
    obtain ⟨i, entry⟩ := List.mem_iff_getElem?.1 among
    obtain ⟨g, here, named, -⟩ := (accounts.getElem?_collect_eq_some_iff done manned).1 entry
    obtain rfl := List.inj_on_of_nodup_map distinct member (List.mem_of_getElem? here) named
    obtain ⟨-, before, there⟩ := exists_entry accounts serial done manned unrefused here
    obtain ⟨-, written⟩ := Prod.mk.inj (Option.some.inj (entry.symm.trans there))
    obtain ⟨rfl, place, reached⟩ := outcomeIn_eq_written_iff.1 written.symm
    exact ⟨rfl, place, (destination?_congr (same before)).2 reached⟩
  · rintro ⟨rfl, place, reached⟩
    obtain ⟨i, here⟩ := List.mem_iff_getElem?.1 member
    obtain ⟨-, before, entry⟩ := exists_entry accounts serial done manned unrefused here
    have written := outcomeIn_eq_written_iff.2
      ⟨rfl, place, (destination?_congr (same before)).1 reached⟩
    rw [written] at entry
    exact List.mem_of_getElem? entry

/-- Two fixtures with one destination cannot both find their own files there, and a fixture that is
alone at its destination does. -/
theorem filesOwned_iff_apart :
    FilesOwned builds r selected (s.workspace, s.collect selected) ↔
      Apart builds r w.tree selected := by
  have written {f : Fixture β} (member : f ∈ selected) {path : String} :
      (f.name, .written path) ∈ s.collect selected ↔ _ :=
    mem_collect_written_iff accounts serial done manned unrefused distinct member
  have same : Tree.SameDirectories w.tree s.workspace.tree := by
    rw [serial.tree]
    exact sameDirectories_saveAll _ _
  -- What a path reads at the end is the entry at the destination in the tree at the start.
  have read_iff {f : Fixture β} {place : Location}
      (targeted : w.tree.target (f.path r.directory) = .ok place) (bytes : List UInt8) :
      s.workspace.tree.read (f.path r.directory) = .ok bytes ↔
        s.workspace.tree.entry? place = some (.file bytes) :=
    Tree.read_eq_ok_iff_of_target (same.target_eq_ok_iff.1 targeted)
  constructor
  · intro owned f member g member' place here there
    have own {f : Fixture β} (member : f ∈ selected)
        (here : destination? builds r w.tree f = some place) :
        ∃ model bytes, modelOf builds f = .ok model ∧ model.encode r.versions = .ok bytes ∧
          s.workspace.tree.entry? place = some (.file bytes) := by
      obtain ⟨model, bytes, built, encoded, held⟩ :=
        owned f member _ ((written member).2 ⟨rfl, place, here⟩)
      obtain ⟨_, delivered⟩ := destination?_eq_some_iff.1 here
      obtain ⟨-, -, -, targeted⟩ := deliveryIn_eq_ok_iff.1 delivered
      exact ⟨model, bytes, built, encoded, (read_iff targeted bytes).1 held⟩
    obtain ⟨model, bytes, built, encoded, held⟩ := own member here
    obtain ⟨model', bytes', built', encoded', held'⟩ := own member' there
    rw [held, Option.some.injEq, Entry.file.injEq] at held'
    subst held'
    exact List.inj_on_of_nodup_map distinct member member'
      (name_eq_of_encode built built' encoded encoded')
  · intro apart f member path among
    obtain ⟨rfl, place, reached⟩ := (written member).1 among
    obtain ⟨bytes, delivered⟩ := destination?_eq_some_iff.1 reached
    obtain ⟨model, built, encoded, targeted⟩ := deliveryIn_eq_ok_iff.1 delivered
    refine ⟨model, bytes, built, encoded, (read_iff targeted bytes).2 ?_⟩
    obtain ⟨i, here⟩ := List.mem_iff_getElem?.1 member
    obtain ⟨saved, -⟩ := exists_entry accounts serial done manned unrefused here
    rw [serial.tree]
    refine entry?_saveAll saved delivered fun g among' there => ?_
    obtain ⟨j, -, listed⟩ := List.mem_filterMap.1 among'
    exact apart g (List.mem_of_getElem? listed) f member place there reached

end

/-- Fixtures whose names hold no slash are saved in different places. -/
theorem Apart.of_plain (distinct : (fixtures.map (·.name)).Nodup)
    (plain : ∀ f ∈ fixtures, f.Plain) : Apart builds r t fixtures := by
  intro f member g member' place here there
  have last {f : Fixture β} (member : f ∈ fixtures)
      (here : destination? builds r t f = some place) : place.getLast? = some f.file := by
    obtain ⟨_, delivered⟩ := destination?_eq_some_iff.1 here
    obtain ⟨-, -, -, targeted⟩ := deliveryIn_eq_ok_iff.1 delivered
    exact Fixture.getLast?_of_target (plain f member) targeted
  have same := (last member here).symm.trans (last member' there)
  exact List.inj_on_of_nodup_map distinct member member'
    (Fixture.file_injective (Option.some.inj same))

/-- So are fixtures of one catalogue. -/
theorem Apart.of_registered {c : Catalogue β} (registered : c.Registered)
    (plain : ∀ f ∈ c.fixtures, f.Plain) (among : ∀ f ∈ fixtures, f ∈ c.fixtures) :
    Apart builds r t fixtures := by
  have whole : Apart builds r t c.fixtures :=
    .of_plain (Catalogue.registered_iff.1 registered) plain
  exact fun f member g member' => whole f (among f member) g (among g member')

end Batch

namespace Runner

open Batch

variable {β : Type} (builds : β → Build) (r : Runner) {c : Catalogue β}
  (filter : String → Bool) (w : Workspace β)

/-- After a batch that refused nothing, whatever the names of its fixtures: every fixture written
finds the file of its own model at its path exactly if no two fixtures of the batch have the same
destination in the tree at the start, as is the case where no name holds a slash. -/
theorem filesOwned_iff (registered : c.Registered) :
    let accepted := c.fixtures.filter fun f => filter f.name
    (∀ schedule, r.endsUnder schedule builds c filter w →
      (∀ entry ∈ (r.runAllUnder schedule builds c filter w).2, entry.2 ≠ .cancelled) →
      (FilesOwned builds r accepted (r.runAllUnder schedule builds c filter w) ↔
        Apart builds r w.tree accepted)) ∧
    ((∀ entry ∈ (r.runAll builds c filter w).2, entry.2 ≠ .cancelled) →
      (FilesOwned builds r accepted (r.runAll builds c filter w) ↔
        Apart builds r w.tree accepted)) ∧
    ((∀ f ∈ accepted, f.Plain) → Apart builds r w.tree accepted) := by
  intro accepted
  rw [show accepted = c.select filter from (c.select_eq filter).symm]
  have distinct : ((c.select filter).map (·.name)).Nodup := nodup_select registered
  have under (schedule : List Event) (ends : r.endsUnder schedule builds c filter w)
      (unrefused : ∀ entry ∈ (r.runAllUnder schedule builds c filter w).2,
        entry.2 ≠ .cancelled) :
      FilesOwned builds r (c.select filter) (r.runAllUnder schedule builds c filter w) ↔
        Apart builds r w.tree (c.select filter) := by
    have start : Accounts builds r (c.select filter) w.calls
        (.initial (r.threads (c.select filter).length) w) := accounts_initial _ w
    obtain ⟨order, serial⟩ := serial_follow schedule start
    exact filesOwned_iff_apart (start.after schedule) serial ends
      (r.manned schedule builds c filter w) unrefused distinct
  refine ⟨under, fun unrefused => ?_, Apart.of_plain distinct⟩
  rw [runAll_eq_runAllUnder] at unrefused ⊢
  exact under _ (isDone_firstWorkerOnly (r.threads_pos _) w) unrefused

end Runner

theorem Runner.filesOwned_sample :
    let r : Runner := { directory := "out", jobs := 2 }
    let builds (built : Built) : Build := { result := built }
    let everything (_ : String) := true
    let w : Workspace Built := { tree := { entries := [(["out"], .directory)] } }
    let run := r.runAll builds .sample everything w
    (∀ entry ∈ run.2, entry.2 ≠ .cancelled) ∧
      Batch.FilesOwned builds r Catalogue.sample.fixtures run := by
  intro r builds everything w run
  have unrefused : ∀ entry ∈ run.2, entry.2 ≠ .cancelled := by decide
  obtain ⟨-, iff, plain⟩ :=
    filesOwned_iff builds r (c := .sample) everything w (Catalogue.registered_iff.2 (by decide))
  exact ⟨unrefused, (iff unrefused).2 (plain (by decide))⟩

/-- Two names of one file. -/
def Catalogue.dotted : Catalogue Built :=
  ⟨[⟨"a", Corpus.neg⟩, ⟨"./a", Corpus.neg⟩]⟩

/-- Fixtures that were registered under different names may not find their own files. -/
theorem Runner.exists_not_filesOwned :
    ∃ (builds : Built → Build) (r : Runner) (c : Catalogue Built) (w : Workspace Built),
      let run := r.runAll builds c (fun _ => true) w
      c.Registered ∧ (∀ entry ∈ run.2, entry.2 ≠ .cancelled) ∧
        ¬Batch.FilesOwned builds r c.fixtures run := by
  refine ⟨fun built => { result := built }, { directory := "." }, .dotted, {},
    Catalogue.registered_iff.2 (by decide), by decide, fun owned => ?_⟩
  obtain ⟨model, bytes, built, encoded, read⟩ :=
    owned ⟨"a", Corpus.neg⟩ (List.mem_cons_self ..) "./a.onnx" (by decide)
  obtain ⟨model', bytes', built', encoded', read'⟩ :=
    owned ⟨"./a", Corpus.neg⟩ (List.mem_cons_of_mem _ (List.mem_cons_self ..)) "././a.onnx"
      (by decide)
  -- Both paths lead to one file.
  have same : bytes = bytes' := by
    refine Except.ok.inj (read.symm.trans (.trans ?_ read'))
    decide +kernel
  subst same
  exact absurd (Batch.name_eq_of_encode built built' encoded encoded') (by decide)

end OnnxCorpus
