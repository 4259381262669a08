import OnnxCorpus.Proofs.Batch.Serial
import OnnxCorpus.Proofs.Catalogue

/-!
# Batches of several workers

With the flag clear, what a fixture comes to does not depend on what the other workers do: its
outcome is the one that it has in the tree at the start, and the tree is the one that the saves made
so far leave, in the order that they were made in (`Undisturbed`, kept by every event). Since saves
of fixtures with different names commute, any schedule ends as a caller does that generates the
fixtures one after the other.
-/

namespace OnnxCorpus

namespace Batch

variable {β : Type}

/-- Fixtures with names of their own that hold no slash. -/
structure Separate (fixtures : List (Fixture β)) : Prop where
  plain : ∀ f ∈ fixtures, f.Plain
  distinct : (fixtures.map (·.name)).Nodup

variable {builds : β → Build} {r : Runner} {selected : List (Fixture β)} {w : Workspace β}

/-! ### One after the other -/

/-- With the flag clear and builders that leave it so, fixtures have the outcomes that they have in
the tree at the start. -/
theorem inOrder_eq {fixtures : List (Fixture β)} (separate : Separate fixtures)
    (pure : ∀ builder, (builds builder).cancels = false) (clear : w.cancelled = false) :
    (inOrder builds r fixtures w).2 =
        fixtures.map (fun f => (f.name, outcomeIn builds r w.tree f)) ∧
      (inOrder builds r fixtures w).1.tree = saveAll builds r fixtures w.tree := by
  induction fixtures generalizing w with
  | nil => exact ⟨rfl, rfl⟩
  | cons f rest ih =>
    obtain ⟨plain, plains⟩ := List.forall_mem_cons.1 separate.plain
    obtain ⟨new, distinct⟩ := List.nodup_cons.1 separate.distinct
    have attempted : attempt builds r f w =
        ({ tree := (saveOf builds r f w.tree).1, cancelled := false,
           calls := w.calls ++ [f.builder] }, outcomeIn builds r w.tree f) := by
      simp [attempt, clear, Fixture.generate_eq, Fixture.buildModel, Fixture.call, pure, saveOf,
        modelOf, outcomeIn]
    obtain ⟨outcomes, tree⟩ := ih (w := (attempt builds r f w).1) ⟨plains, distinct⟩
      (by rw [attempted])
    rw [attempted] at outcomes tree
    simp only [inOrder, attempted, outcomes, tree, List.map_cons]
    refine ⟨congrArg _ (List.map_congr_left fun g member => ?_), rfl⟩
    have apart : g.name ≠ f.name := fun same => new (List.mem_map.2 ⟨g, member, same⟩)
    rw [outcomeIn, outcomeIn, saveOf, saveOf, saveOf,
      Fixture.result_saveModel_saveModel (plains g member) plain apart]

/-! ### Under a schedule -/

/-- The place of a fixture that was saved or not started. -/
def Stage.finished? : Stage → Option Nat
  | .finished place _ => some place
  | .idle | .fetched _ | .cleared _ | .built .. | .stopped => none

theorem Stage.place?_of_finished? {stage : Stage} {place : Nat}
    (finished : stage.finished? = some place) : stage.place? = some place := by
  cases stage <;> simp_all [finished?, place?]

/-- An outcome is the one that its fixture has in a tree. -/
def Stage.EndsAsIn (builds : β → Build) (r : Runner) (selected : List (Fixture β)) (t : Tree)
    (stage : Stage) : Prop :=
  match stage with
  | .finished place outcome => ∀ f, selected[place]? = some f → outcome = outcomeIn builds r t f
  | .idle | .fetched _ | .cleared _ | .built .. | .stopped => True

/-- Nothing disturbed a batch that started in a tree. -/
structure Undisturbed (builds : β → Build) (r : Runner) (selected : List (Fixture β)) (t : Tree)
    (s : State β) : Prop where
  clear : s.workspace.cancelled = false
  outcomes : ∀ stage ∈ s.pool, stage.EndsAsIn builds r selected t
  saves : ∃ order : List Nat, (order : Multiset Nat) = s.pool.filterMap Stage.finished? ∧
    s.workspace.tree = saveAll builds r (fixturesAt selected order) t

variable {t : Tree} {calls : List β} {s s' : State β} {event : Event}

theorem undisturbed_initial (workers : Nat) (clear : w.cancelled = false) :
    Undisturbed builds r selected w.tree (.initial workers w) := by
  refine ⟨clear, fun stage member => ?_, [], (filterMap_pool_initial rfl workers w).symm, rfl⟩
  rw [eq_idle_of_mem_initial member]
  trivial

/-- The fixtures that were saved are others than one that is not. -/
theorem Accounts.apart (accounts : Accounts builds r selected calls s)
    (separate : Separate selected) {place : Nat} {built : Except (Fault FixtureError) Model}
    (member : .built place built ∈ s.pool) {f : Fixture β} (found : selected[place]? = some f)
    {order : List Nat} (finished : (order : Multiset Nat) = s.pool.filterMap Stage.finished?) :
    ∀ g ∈ fixturesAt selected order, g.Plain ∧ f.name ≠ g.name := by
  intro g among
  obtain ⟨other, listed, there⟩ := List.mem_filterMap.1 among
  refine ⟨separate.plain g (List.mem_of_getElem? there), fun same => ?_⟩
  have elsewhere : other ≠ place := by
    rintro rfl
    -- The stage that is built and the one that is finished would both take the place.
    have inPool : other ∈ s.pool.filterMap Stage.finished? := finished ▸ Multiset.mem_coe.2 listed
    obtain ⟨stage, among, here⟩ := (Multiset.mem_filterMap _ _).1 inPool
    rw [accounts.eq_of_place among member (Stage.place?_of_finished? here) rfl] at here
    cases here
  have inside : other < (selected.map (·.name)).length := by
    simpa using (List.getElem?_eq_some_iff.1 there).1
  exact elsewhere ((List.getElem?_inj inside separate.distinct).1 (by simp [there, found, same]))

theorem Undisturbed.moves (undisturbed : Undisturbed builds r selected t s)
    (accounts : Accounts builds r selected calls s) (separate : Separate selected)
    (pure : ∀ builder, (builds builder).cancels = false) (unset : event ≠ .signal true)
    (moves : Moves builds r selected event s s') : Undisturbed builds r selected t s' := by
  obtain ⟨clear, outcomes, order, finished, tree⟩ := undisturbed
  cases moves with
  | fetch more moved cursor workspace =>
    exact ⟨workspace ▸ clear, moved.forall outcomes trivial, order,
      by rw [moved.filterMap_eq rfl, finished], workspace ▸ tree⟩
  | stop past moved cursor workspace =>
    exact ⟨workspace ▸ clear, moved.forall outcomes trivial, order,
      by rw [moved.filterMap_eq rfl, finished], workspace ▸ tree⟩
  | refuse place flag moved cursor workspace =>
    rw [clear] at flag
    cases flag
  | clear place flag moved cursor workspace =>
    exact ⟨workspace ▸ clear, moved.forall outcomes trivial, order,
      by rw [moved.filterMap_eq rfl, finished], workspace ▸ tree⟩
  | build place f found moved cursor workspace =>
    refine ⟨?_, moved.forall outcomes trivial, order, by rw [moved.filterMap_eq rfl, finished], ?_⟩
    · simp [workspace, Fixture.buildModel, Fixture.call, clear, pure]
    · rw [workspace, ← tree]
      rfl
  | save place f found built moved cursor workspace =>
    obtain rfl := accounts.owned _ moved.mem_old f found
    have plain : f.Plain := separate.plain f (List.mem_of_getElem? found)
    have apart := accounts.apart separate moved.mem_old found finished
    refine ⟨by rw [workspace, ← clear], moved.forall outcomes fun g here => ?_, order ++ [place],
      ?_, ?_⟩
    · -- The saves made so far are those of other fixtures, so this one ends as it does at first.
      obtain rfl := Option.some.inj (found.symm.trans here)
      rw [outcomeIn, ← result_saveAll plain apart, ← tree]
      rfl
    · rw [moved.filterMap_cons (f := Stage.finished?) rfl rfl, ← finished]
      exact Multiset.coe_eq_coe.2 (List.perm_append_singleton _ _)
    · have last : fixturesAt selected (order ++ [place]) = fixturesAt selected order ++ [f] := by
        simp [fixturesAt, found]
      rw [workspace, last, saveAll_concat, ← tree]
      rfl
  | send moved cursor workspace =>
    exact ⟨workspace ▸ clear, moved ▸ Multiset.forall_mem_cons.2 ⟨trivial, outcomes⟩, order,
      by rw [moved, Multiset.filterMap_cons_none _ _ rfl, finished], workspace ▸ tree⟩
  | signal cancelled sent moved cursor workspace =>
    have off : cancelled = false := by
      cases cancelled with
      | false => rfl
      | true => exact absurd sent unset
    exact ⟨by rw [workspace, off], moved ▸ outcomes, order, by rw [moved, finished],
      by rw [workspace, ← tree]⟩
  | rest same => exact same ▸ ⟨clear, outcomes, order, finished, tree⟩

/-- Without a signal to cancel, nothing disturbs a batch. -/
theorem undisturbed_follow (workers : Nat) {schedule : List Event}
    (separate : Separate selected) (pure : ∀ builder, (builds builder).cancels = false)
    (clear : w.cancelled = false) (unset : .signal true ∉ schedule) :
    Undisturbed builds r selected w.tree
      (follow builds r selected schedule (.initial workers w)) := by
  refine (follow_induction (P := fun s => Accounts builds r selected w.calls s ∧
    Undisturbed builds r selected w.tree s) (fun s event member both => ?_)
    ⟨accounts_initial workers w, undisturbed_initial workers clear⟩).2
  obtain ⟨accounts, undisturbed⟩ := both
  have moves : Moves builds r selected event s _ := moves_next event accounts.place_lt
  have harmless : event ≠ .signal true := by
    rintro rfl
    exact unset member
  exact ⟨accounts.moves moves, undisturbed.moves accounts separate pure harmless moves⟩

section

variable (undisturbed : Undisturbed builds r selected t s)
  (accounts : Accounts builds r selected calls s) (done : s.isDone)
  (manned : 0 < s.workers.length)

include undisturbed accounts done manned

theorem Undisturbed.collect_eq :
    s.collect selected = selected.map fun f => (f.name, outcomeIn builds r t f) := by
  have entries := accounts.forall₂_collect done manned
    fun _ _ member => undisturbed.outcomes _ member
  rw [← List.forall₂_eq_eq_eq, List.forall₂_map_right_iff]
  exact (entries.imp fun _ _ same => Prod.ext same.1 same.2).flip

/-- Every fixture was saved, and the order of the saves does not matter. -/
theorem Undisturbed.tree_alike (separate : Separate selected) :
    Tree.Alike s.workspace.tree (saveAll builds r selected t) := by
  obtain ⟨-, -, order, finished, tree⟩ := undisturbed
  have places : order.Perm (List.range selected.length) := by
    rw [filterMap_pool_of_isDone rfl done] at finished
    refine (Multiset.coe_eq_coe.1 finished).trans ?_
    have sent := accounts.places_sent done manned
    rwa [← List.filterMap_eq_map] at sent
  have all : selected.Perm (fixturesAt selected order) :=
    ((places.filterMap _).trans (.of_eq (filterMap_getElem?_range selected))).symm
  rw [tree]
  exact (saveAll_perm all separate.plain separate.distinct).symm

end

end Batch

namespace Runner

open Batch

variable {β : Type} {builds : β → Build} {r : Runner} {c : Catalogue β}
  {filter : String → Bool} {w : Workspace β}

theorem runAll_one :
    ({ r with jobs := 1 } : Runner).runAll builds c filter w =
      inOrder builds { r with jobs := 1 } (c.select filter) w := by
  rw [runAll, if_pos (.inl (Nat.le_refl 1))]

theorem nodup_select (registered : c.Registered) : ((c.select filter).map (·.name)).Nodup :=
  (Catalogue.registered_iff.1 registered).sublist (Catalogue.select_sublist.map _)

theorem separate_select (registered : c.Registered) (plain : ∀ f ∈ c.fixtures, f.Plain) :
    Separate (c.select filter) where
  plain f member := plain f (Catalogue.mem_select_iff.1 member).1
  distinct := nodup_select registered

/-- A batch that nobody cancels comes for each fixture to what the fixture comes to in the tree at
the start, and leaves the files of all their saves. -/
theorem outcomes_under (registered : c.Registered) (plain : ∀ f ∈ c.fixtures, f.Plain)
    (pure : ∀ builder, (builds builder).cancels = false) (clear : w.cancelled = false)
    {schedule : List Event} (unset : .signal true ∉ schedule)
    (ends : r.endsUnder schedule builds c filter w) :
    (r.runAllUnder schedule builds c filter w).2 =
        (c.select filter).map (fun f => (f.name, outcomeIn builds r w.tree f)) ∧
      Tree.Alike (r.runAllUnder schedule builds c filter w).1.tree
        (saveAll builds r (c.select filter) w.tree) := by
  have separate : Separate (c.select filter) := separate_select registered plain
  have accounts : Accounts builds r (c.select filter) w.calls _ :=
    accounts_follow (r.threads (c.select filter).length) schedule w
  have undisturbed : Undisturbed builds r (c.select filter) w.tree _ :=
    undisturbed_follow (r.threads (c.select filter).length) separate pure clear unset
  have manned := r.manned schedule builds c filter w
  exact ⟨undisturbed.collect_eq accounts ends manned,
    undisturbed.tree_alike accounts ends manned separate⟩

/-- Whatever the number of workers and the order of their steps: as long as nobody sets the flag, a
batch of fixtures whose names hold no slash ends, and gives the outcomes and leaves the files that
it does with one worker, those of the registered fixtures that the filter accepts. -/
theorem parallel_eq_sequential (registered : c.Registered) (plain : ∀ f ∈ c.fixtures, f.Plain)
    (pure : ∀ builder, (builds builder).cancels = false) (clear : w.cancelled = false)
    {schedule : List Event} (unset : .signal true ∉ schedule) :
    (r.Fair (c.fixtures.filter fun f => filter f.name).length schedule →
      r.endsUnder schedule builds c filter w) ∧
    (r.endsUnder schedule builds c filter w →
      let alone := ({ r with jobs := 1 } : Runner).runAll builds c filter w
      let run := r.runAllUnder schedule builds c filter w
      run.2 = alone.2 ∧
        run.2.map (·.1) = (c.fixtures.filter fun f => filter f.name).map (·.name) ∧
        Tree.Alike run.1.tree alone.1.tree) := by
  rw [← c.select_eq filter]
  refine ⟨endsUnder_of_fair schedule builds r c filter w, fun ends => ?_⟩
  have separate : Separate (c.select filter) := separate_select registered plain
  obtain ⟨outcomes, tree⟩ := outcomes_under registered plain pure clear unset ends
  obtain ⟨outcomes', tree'⟩ := inOrder_eq (r := { r with jobs := 1 }) separate pure clear
  simp only [runAll_one, outcomes, outcomes', tree']
  exact ⟨rfl, by simp, tree⟩

end Runner

/-- Two workers take turns. -/
def Batch.interleaved : List Event :=
  [.step 0, .step 0, .step 1, .step 1, .step 1, .step 1, .step 0, .step 1, .step 1, .step 1,
    .step 0, .step 1, .step 1, .step 0, .step 1, .step 0, .step 1]

theorem Runner.parallel_eq_sequential_interleaved :
    let r : Runner := { directory := "out", jobs := 2 }
    let builds (built : Built) : Build := { result := built }
    let filter (name : String) : Bool := name ≠ "broken"
    let w : Workspace Built := { tree := { entries := [(["out"], .directory)] } }
    let alone := ({ r with jobs := 1 } : Runner).runAll builds .sample filter w
    let run := r.runAllUnder Batch.interleaved builds .sample filter w
    r.endsUnder Batch.interleaved builds .sample filter w ∧
      run.2 = alone.2 ∧ Tree.Alike run.1.tree alone.1.tree ∧
      run.2 = [("acos", .written "out/acos.onnx"), ("neg", .written "out/neg.onnx")] := by
  intro r builds filter w alone run
  have ends : r.endsUnder Batch.interleaved builds .sample filter w := by decide
  obtain ⟨outcomes, -, files⟩ := (parallel_eq_sequential (Catalogue.registered_iff.2 (by decide))
    (by decide) (fun _ => rfl) rfl (by decide)).2 ends
  exact ⟨ends, outcomes, files, by decide⟩

end OnnxCorpus
