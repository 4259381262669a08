import OnnxCorpus.Corpus.Elementwise
import OnnxCorpus.Proofs.Batch.Progress
import OnnxCorpus.Proofs.Batch.Saves
import Mathlib.Data.Multiset.Range

/-!
# What a batch accounts for

Whatever the schedule and whoever sets or clears the flag, the places taken from the cursor are
those of the pool, each once, and the builders called are those of the fixtures past their check of
the flag (`Accounts`, kept by every event). So a batch that has ended gives every registered fixture
that the filter accepts one outcome, its own, in order, and called the builders of those that were
started, once each, and no others (`Complete`).
-/

namespace OnnxCorpus

namespace Batch

variable {β : Type}

/-- An outcome that a fixture can have: it was not started, or what its own builder gave was saved
or reported. -/
def Owned (builds : β → Build) (r : Runner) (f : Fixture β) (outcome : Outcome) : Prop :=
  outcome = .cancelled ∨ ∃ t, outcome = .ofResult f.name (saveOf builds r f t).2

/-- The builders of the fixtures that were started, as their outcomes tell. -/
def started (selected : List (Fixture β)) (outcomes : List Outcome) : List β :=
  (selected.zip outcomes).filterMap fun (f, outcome) =>
    if outcome = .cancelled then none else some f.builder

/-- A batch gave every selected fixture one outcome, its own, in order. To the calls of builders
that were made before, it added those for the fixtures that were started, one each. -/
structure Complete (builds : β → Build) (r : Runner) (selected : List (Fixture β))
    (calls : List β) (run : Workspace β × List (String × Outcome)) : Prop where
  names : run.2.map (·.1) = selected.map (·.name)
  owned : List.Forall₂ (fun f entry => Owned builds r f entry.2) selected run.2
  calls : run.1.calls.Perm (calls ++ started selected (run.2.map (·.2)))

theorem ofResult_ne_cancelled {name : String} {result : Except (Fault FixtureError) String} :
    Outcome.ofResult name result ≠ .cancelled := by
  rcases result with (_ | _) | _ <;> simp [Outcome.ofResult]

/-! ### The accounts of a batch under way -/

/-- The builder that was called for the fixture of a stage. -/
def Stage.called? (selected : List (Fixture β)) : Stage → Option β
  | .built place _ => selected[place]?.map (·.builder)
  | .finished place outcome =>
    if outcome = .cancelled then none else selected[place]?.map (·.builder)
  | .idle | .fetched _ | .cleared _ | .stopped => none

variable (builds : β → Build) (r : Runner) (selected : List (Fixture β))

/-- A stage holds what its own fixture gave. -/
def Stage.Owned (stage : Stage) : Prop :=
  match stage with
  | .built place result => ∀ f, selected[place]? = some f → result = modelOf builds f
  | .finished place outcome => ∀ f, selected[place]? = some f → Batch.Owned builds r f outcome
  | .idle | .fetched _ | .cleared _ | .stopped => True

/-- What a batch under way accounts for. -/
structure Accounts (calls : List β) (s : State β) : Prop where
  places : s.pool.filterMap Stage.place? = Multiset.range (min s.cursor selected.length)
  stopped : ∀ stage ∈ s.pool, stage = .stopped → selected.length ≤ s.cursor
  owned : ∀ stage ∈ s.pool, stage.Owned builds r selected
  calls : (s.workspace.calls : Multiset β) = calls + s.pool.filterMap (Stage.called? selected)

variable {builds r selected} {calls : List β} {s s' : State β}

theorem pool_initial (workers : Nat) (w : Workspace β) :
    (State.initial workers w).pool = ↑(List.replicate workers Stage.idle) := by
  simp [State.pool, State.initial]

theorem eq_idle_of_mem_initial {workers : Nat} {w : Workspace β} {stage : Stage}
    (member : stage ∈ (State.initial workers w).pool) : stage = .idle := by
  rw [pool_initial] at member
  exact List.eq_of_mem_replicate member

theorem filterMap_pool_initial {γ : Type} {f : Stage → Option γ} (none : f .idle = none)
    (workers : Nat) (w : Workspace β) : (State.initial workers w).pool.filterMap f = 0 := by
  rw [pool_initial, Multiset.filterMap_coe, List.filterMap_replicate_of_none none]
  rfl

theorem accounts_initial (workers : Nat) (w : Workspace β) :
    Accounts builds r selected w.calls (.initial workers w) where
  places := by
    rw [filterMap_pool_initial rfl, State.initial, Nat.zero_min, Multiset.range_zero]
  stopped stage member last := nomatch (eq_idle_of_mem_initial member).symm.trans last
  owned stage member := by
    rw [eq_idle_of_mem_initial member]
    trivial
  calls := by rw [filterMap_pool_initial rfl, Multiset.add_zero, State.initial]

theorem Accounts.place_lt (accounts : Accounts builds r selected calls s) :
    ∀ stage ∈ s.pool, ∀ place ∈ stage.place?, place < selected.length := by
  intro stage member place here
  have among : place ∈ s.pool.filterMap Stage.place? :=
    (Multiset.mem_filterMap _ _).2 ⟨stage, member, here⟩
  rw [accounts.places, Multiset.mem_range] at among
  omega

theorem Accounts.moves {event : Event} (accounts : Accounts builds r selected calls s)
    (moves : Moves builds r selected event s s') : Accounts builds r selected calls s' := by
  obtain ⟨places, stopped, owned, called⟩ := accounts
  have later (further : s.cursor ≤ s'.cursor) (stage : Stage) (member : stage ∈ s.pool)
      (last : stage = .stopped) : selected.length ≤ s'.cursor :=
    Nat.le_trans (stopped stage member last) further
  -- Only a fetch adds a place and only a build adds a call; the other moves carry theirs along.
  cases moves with
  | fetch more moved cursor workspace =>
    exact {
      places := by
        rw [moved.filterMap_cons (f := Stage.place?) rfl rfl, places, cursor,
          Nat.min_eq_left (Nat.le_of_lt more), Nat.min_eq_left more, Multiset.range_succ]
      stopped := moved.forall (later (by omega)) nofun
      owned := moved.forall owned trivial
      calls := by rw [workspace, called, moved.filterMap_eq rfl] }
  | stop past moved cursor workspace =>
    exact {
      places := by
        rw [moved.filterMap_eq rfl, places, cursor, Nat.min_eq_right past,
          Nat.min_eq_right (Nat.le_succ_of_le past)]
      stopped := fun _ _ _ => cursor ▸ Nat.le_succ_of_le past
      owned := moved.forall owned trivial
      calls := by rw [workspace, called, moved.filterMap_eq rfl] }
  | refuse place flag moved cursor workspace =>
    exact {
      places := by rw [moved.filterMap_eq rfl, places, cursor]
      stopped := moved.forall (later (by omega)) nofun
      owned := moved.forall owned fun f _ => .inl rfl
      calls := by rw [workspace, called, moved.filterMap_eq rfl] }
  | clear place flag moved cursor workspace =>
    exact {
      places := by rw [moved.filterMap_eq rfl, places, cursor]
      stopped := moved.forall (later (by omega)) nofun
      owned := moved.forall owned trivial
      calls := by rw [workspace, called, moved.filterMap_eq rfl] }
  | build place f found moved cursor workspace =>
    have new : Stage.called? selected (.built place (f.buildModel builds s.workspace).2) =
        some f.builder := by rw [Stage.called?, found, Option.map_some]
    exact {
      places := by rw [moved.filterMap_eq rfl, places, cursor]
      stopped := moved.forall (later (by omega)) nofun
      owned := moved.forall owned fun g here => by
        obtain rfl := Option.some.inj (found.symm.trans here)
        rfl
      calls := by
        rw [workspace, moved.filterMap_cons rfl new, Multiset.add_cons, ← called]
        exact Multiset.coe_eq_coe.2 (List.perm_append_singleton _ _) }
  | save place f found built moved cursor workspace =>
    exact {
      places := by rw [moved.filterMap_eq rfl, places, cursor]
      stopped := moved.forall (later (by omega)) nofun
      owned := moved.forall owned fun g here => by
        obtain rfl := Option.some.inj (found.symm.trans here)
        obtain rfl := owned _ moved.mem_old f found
        exact .inr ⟨s.workspace.tree, rfl⟩
      calls := by
        rw [workspace, moved.filterMap_eq (by simp [Stage.called?, ofResult_ne_cancelled]),
          ← called] }
  | send moved cursor workspace =>
    exact {
      places := by rw [moved, Multiset.filterMap_cons_none _ _ rfl, places, cursor]
      stopped := moved ▸ Multiset.forall_mem_cons.2 ⟨nofun, later (by omega)⟩
      owned := moved ▸ Multiset.forall_mem_cons.2 ⟨trivial, owned⟩
      calls := by rw [workspace, called, moved, Multiset.filterMap_cons_none _ _ rfl] }
  | signal cancelled sent moved cursor workspace =>
    exact {
      places := by rw [moved, places, cursor]
      stopped := moved ▸ later (by omega)
      owned := moved ▸ owned
      calls := by rw [workspace, moved, ← called] }
  | rest same => exact same ▸ ⟨places, stopped, owned, called⟩

/-- Every schedule keeps the accounts. -/
theorem Accounts.after (accounts : Accounts builds r selected calls s) (schedule : List Event) :
    Accounts builds r selected calls (follow builds r selected schedule s) :=
  follow_induction (fun _ event _ accounts => accounts.moves (moves_next event accounts.place_lt))
    accounts

theorem accounts_follow (workers : Nat) (schedule : List Event) (w : Workspace β) :
    Accounts builds r selected w.calls
      (follow builds r selected schedule (.initial workers w)) :=
  (accounts_initial workers w).after schedule

/-- A place has one stage. -/
theorem Accounts.eq_of_place (accounts : Accounts builds r selected calls s) {stage stage' : Stage}
    {place : Nat} (member : stage ∈ s.pool) (member' : stage' ∈ s.pool)
    (here : stage.place? = some place) (here' : stage'.place? = some place) : stage = stage' := by
  obtain ⟨others, pool⟩ := Multiset.exists_cons_of_mem member
  have once : (s.pool.filterMap Stage.place?).Nodup := accounts.places ▸ Multiset.nodup_range _
  rw [pool, Multiset.filterMap_cons_some Stage.place? _ _ here] at once
  rw [pool] at member'
  rcases Multiset.mem_cons.1 member' with same | other
  · exact same.symm
  · exact absurd ((Multiset.mem_filterMap _ _).2 ⟨stage', other, here'⟩)
      (Multiset.nodup_cons.1 once).1

/-! ### The accounts of a batch that has ended -/

/-- Once every worker has stopped, the pool comes down to the fixtures whose outcomes were sent. -/
theorem filterMap_pool_of_isDone {γ : Type} {f : Stage → Option γ} (none : f .stopped = none)
    (done : s.isDone) :
    s.pool.filterMap f =
      ↑(s.sent.filterMap fun (place, outcome) => f (.finished place outcome)) := by
  have silent : s.workers.filterMap f = [] := by
    refine List.filterMap_eq_nil_iff.2 fun stage member => ?_
    have last := List.all_eq_true.1 done stage member
    cases stage <;> simp_all
  rw [State.pool, Multiset.coe_add, Multiset.filterMap_coe, List.filterMap_append, silent,
    List.nil_append, List.filterMap_map]
  rfl

/-- Outcomes sent for all places once each are a list of outcomes in some order. -/
theorem exists_outcomes {sent : List (Nat × Outcome)} {n : Nat}
    (places : (sent.map (·.1)).Perm (List.range n)) :
    ∃ outcomes : List Outcome, outcomes.length = n ∧ sent.Perm ((List.range n).zip outcomes) := by
  let ordered := sent.mergeSort fun a b => a.1 ≤ b.1
  have perm : ordered.Perm sent := List.mergeSort_perm _ _
  have trans (a b c : Nat × Outcome) :
      decide (a.1 ≤ b.1) → decide (b.1 ≤ c.1) → decide (a.1 ≤ c.1) := by
    simpa using Nat.le_trans
  have total (a b : Nat × Outcome) : decide (a.1 ≤ b.1) || decide (b.1 ≤ a.1) := by
    simpa using Nat.le_total a.1 b.1
  have rising : (ordered.map (·.1)).Pairwise (· ≤ ·) := by
    simpa [List.pairwise_map] using List.pairwise_mergeSort trans total sent
  have inOrder : ordered.map (·.1) = List.range n :=
    ((perm.map _).trans places).eq_of_pairwise (fun _ _ _ _ => Nat.le_antisymm) rising
      List.pairwise_le_range
  refine ⟨ordered.map (·.2), ?_, ?_⟩
  · rw [List.length_map, ← List.length_map (·.1), inOrder, List.length_range]
  · rw [← inOrder, List.zip_map', List.map_id']
    exact perm.symm

theorem zip_range_filterMap (selected : List (Fixture β)) (outcomes : List Outcome) :
    ((List.range selected.length).zip outcomes).filterMap
        (fun (place, outcome) => selected[place]?.map (·, outcome)) =
      selected.zip outcomes := by
  induction selected generalizing outcomes with
  | nil => rfl
  | cons f rest ih =>
    cases outcomes with
    | nil => simp
    | cons outcome later =>
      rw [List.length_cons, List.range_succ_eq_map, List.zip_cons_cons, List.zip_cons_cons,
        List.filterMap_cons, List.zip_map_left, List.filterMap_map]
      exact congrArg ((f, outcome) :: ·) (ih later)

/-- The builders called for all places are those of the fixtures that were started. -/
theorem filterMap_called? (selected : List (Fixture β)) (outcomes : List Outcome) :
    ((List.range selected.length).zip outcomes).filterMap
        (fun (place, outcome) => Stage.called? selected (.finished place outcome)) =
      started selected outcomes := by
  rw [started, ← zip_range_filterMap, List.filterMap_filterMap]
  refine List.filterMap_congr fun (place, outcome) _ => ?_
  simp only [Stage.called?]
  cases selected[place]? <;> split <;> simp_all

section

variable (accounts : Accounts builds r selected calls s) (done : s.isDone)
  (manned : 0 < s.workers.length)

include accounts done manned

/-- In a batch that has ended, an outcome was sent for every place. -/
theorem Accounts.places_sent : (s.sent.map (·.1)).Perm (List.range selected.length) := by
  have past : selected.length ≤ s.cursor := by
    have member := mem_pool_of_worker (List.getElem?_eq_getElem manned)
    refine accounts.stopped _ member ?_
    have last := List.all_eq_true.1 done _ (List.getElem_mem manned)
    cases here : s.workers[0] <;> simp_all
  have places := accounts.places
  rw [Nat.min_eq_right past, filterMap_pool_of_isDone rfl done] at places
  rw [← List.filterMap_eq_map]
  exact Multiset.coe_eq_coe.1 places

/-- The entries of a batch that has ended are those of the finished fixtures, at their places. -/
theorem Accounts.getElem?_collect_eq_some_iff {place : Nat} {entry : String × Outcome} :
    (s.collect selected)[place]? = some entry ↔
      ∃ f, selected[place]? = some f ∧ entry.1 = f.name ∧ .finished place entry.2 ∈ s.pool := by
  obtain ⟨outcomes, size, sent⟩ := exists_outcomes (accounts.places_sent done manned)
  have finished (outcome : Outcome) :
      .finished place outcome ∈ s.pool ↔ outcomes[place]? = some outcome := by
    have agree : (place, outcome) ∈ _ ↔ outcomes[place]? = some outcome := mem_zip_range_iff size
    rw [← sent.mem_iff] at agree
    rw [← agree]
    unfold State.pool
    rw [Multiset.mem_add, Multiset.mem_coe, Multiset.mem_coe, List.mem_map]
    constructor
    · rintro (working | ⟨entry, member, same⟩)
      · have last := List.all_eq_true.1 done _ working
        cases last
      · cases same
        exact member
    · intro member
      exact .inr ⟨_, member, rfl⟩
  rw [collect_eq size sent, List.getElem?_zipWith_eq_some]
  constructor
  · rintro ⟨f, outcome, here, there, rfl⟩
    exact ⟨f, here, rfl, (finished outcome).2 there⟩
  · rintro ⟨f, here, named, member⟩
    exact ⟨f, entry.2, here, (finished entry.2).1 member, Prod.ext named.symm rfl⟩

theorem Accounts.length_collect : (s.collect selected).length = selected.length := by
  obtain ⟨outcomes, size, sent⟩ := exists_outcomes (accounts.places_sent done manned)
  rw [collect_eq size sent, List.length_zipWith, size, Nat.min_self]

/-- What holds of the stages of all finished fixtures holds of the outcomes of a batch that has
ended. -/
theorem Accounts.forall₂_collect {P : Fixture β → Outcome → Prop}
    (each : ∀ place outcome, .finished place outcome ∈ s.pool →
      ∀ f, selected[place]? = some f → P f outcome) :
    List.Forall₂ (fun f entry => entry.1 = f.name ∧ P f entry.2) selected (s.collect selected) := by
  refine List.forall₂_iff_get.2 ⟨(accounts.length_collect done manned).symm, ?_⟩
  intro place inside inside'
  obtain ⟨f, here, named, member⟩ :=
    (accounts.getElem?_collect_eq_some_iff done manned).1 (List.getElem?_eq_getElem inside')
  rw [List.getElem?_eq_getElem inside, Option.some.injEq] at here
  subst here
  exact ⟨named, each place _ member _ (List.getElem?_eq_getElem inside)⟩

/-- A batch that has ended is complete. -/
theorem Accounts.complete :
    Complete builds r selected calls (s.workspace, s.collect selected) := by
  have entries := accounts.forall₂_collect done manned
    fun _ _ member => accounts.owned _ member
  refine ⟨?_, entries.imp fun _ _ own => own.2, ?_⟩
  · rw [← List.forall₂_eq_eq_eq, List.forall₂_map_left_iff, List.forall₂_map_right_iff]
    exact (entries.imp fun _ _ own => own.1).flip
  · obtain ⟨outcomes, size, sent⟩ := exists_outcomes (accounts.places_sent done manned)
    have called := accounts.calls
    rw [filterMap_pool_of_isDone rfl done, Multiset.coe_eq_coe.2 (sent.filterMap _),
      filterMap_called?, Multiset.coe_add, Multiset.coe_eq_coe] at called
    have theirs : (s.collect selected).map (·.2) = outcomes := by
      rw [collect_eq size sent, ← List.map_uncurry_zip_eq_zipWith, List.map_map]
      exact List.map_snd_zip (Nat.le_of_eq size)
    rwa [theirs]

end

theorem not_mem_firstWorkerOnly (workers fixtures : Nat) (cancelled : Bool) :
    .signal cancelled ∉ firstWorkerOnly workers fixtures := by
  simp [firstWorkerOnly]

/-- A batch ends in which the first worker does all the work before the others begin. -/
theorem isDone_firstWorkerOnly {workers : Nat} (manned : 0 < workers) (w : Workspace β) :
    (follow builds r selected (firstWorkerOnly workers selected.length)
      (.initial workers w)).isDone := by
  let s := follow builds r selected (steps (stepsEnough selected.length)) (.initial workers w)
  have size : s.workers.length = workers :=
    (length_workers_follow _).trans List.length_replicate
  have first : s.stepsLeft selected.length 0 = 0 := by
    refine Nat.le_zero.1 (Nat.le_trans (stepsLeft_follow _ 0) ?_)
    rw [stepsLeft_initial manned, steps, List.count_replicate_self, Nat.sub_self]
  have past : selected.length ≤ s.cursor := by
    have here := List.getElem?_eq_getElem (size ▸ manned : 0 < s.workers.length)
    rw [State.stepsLeft, here] at first
    exact (accounts_follow workers _ w).stopped _ (mem_pool_of_worker here)
      (Stage.eq_stopped_of_stepsLeft first)
  have others (worker : Nat) (inside : worker < workers) :
      s.stepsLeft selected.length worker ≤ 1 := by
    cases worker with
    | zero => exact Nat.le_trans (Nat.le_of_eq first) (Nat.zero_le 1)
    | succ worker =>
      have idle : s.workers[worker + 1]? = some .idle := by
        refine follow_induction (P := fun s => s.workers[worker + 1]? = some .idle)
          (fun s event member idle => ?_) (by simp [State.initial, inside])
        rw [List.eq_of_mem_replicate member, getElem?_workers_next_step (Nat.succ_ne_zero _).symm,
          idle]
      rw [State.stepsLeft, idle]
      simp [Stage.stepsLeft, past]
  refine isDone_of_stepsLeft selected.length fun worker inside => ?_
  rw [length_workers_follow, State.initial, List.length_replicate] at inside
  rw [firstWorkerOnly, follow, List.foldl_append]
  refine Nat.le_zero.1 (Nat.le_trans (stepsLeft_follow (s := s) _ worker) ?_)
  have once : 1 ≤ ((List.range workers).map Event.step).count (.step worker) :=
    List.one_le_count_iff.2 (List.mem_map_of_mem (List.mem_range.2 inside))
  exact Nat.le_of_eq (Nat.sub_eq_zero_of_le (Nat.le_trans (others worker inside) once))

end Batch

namespace Runner

open Batch

variable {β : Type} (builds : β → Build) (r : Runner) (c : Catalogue β)
  (filter : String → Bool) (w : Workspace β)

theorem complete_of_endsUnder {schedule : List Event}
    (ends : r.endsUnder schedule builds c filter w) :
    Complete builds r (c.select filter) w.calls (r.runAllUnder schedule builds c filter w) :=
  (accounts_follow _ schedule w).complete ends (r.manned schedule builds c filter w)

/-- However the steps of the workers follow each other, whenever the flag is set or cleared, and
whatever the builders do: a batch ends once every worker has had enough steps, and when it has
ended, every registered fixture that the filter accepts has one outcome, its own, in the order of
registration, and the builders of those that were started were called once each, and no others. -/
theorem batch_complete :
    (∀ schedule,
      (r.Fair (c.fixtures.filter fun f => filter f.name).length schedule →
        r.endsUnder schedule builds c filter w) ∧
      (r.endsUnder schedule builds c filter w →
        Complete builds r (c.fixtures.filter fun f => filter f.name) w.calls
          (r.runAllUnder schedule builds c filter w))) ∧
    Complete builds r (c.fixtures.filter fun f => filter f.name) w.calls
      (r.runAll builds c filter w) := by
  rw [← c.select_eq filter]
  refine ⟨fun schedule => ⟨endsUnder_of_fair schedule builds r c filter w,
    complete_of_endsUnder builds r c filter w⟩, ?_⟩
  rw [runAll_eq_runAllUnder]
  exact complete_of_endsUnder builds r c filter w (isDone_firstWorkerOnly (r.threads_pos _) w)

end Runner

/-- Three fixtures, one of them with a builder that crashes. -/
def Catalogue.sample : Catalogue Built :=
  ⟨[⟨"acos", Corpus.acos⟩, ⟨"broken", .error (.crash "broken")⟩, ⟨"neg", Corpus.neg⟩]⟩

/-- Two workers take turns, and the flag is set for the second one's first fixture. They go on for
longer than they need to. -/
def Batch.interrupted : List Event :=
  [.step 0, .step 0, .step 0, .signal true, .step 1, .step 1, .step 1, .signal false] ++
    (List.replicate 11 [.step 1, .step 0]).flatten

/-- Of the two fixtures that the filter accepts, one is refused, and the builder of the other
crashes. -/
theorem Runner.batch_complete_interrupted :
    let r : Runner := { directory := "out", jobs := 2 }
    let builds (built : Built) : Build := { result := built }
    let filter (name : String) : Bool := name ≠ "acos"
    let run := r.runAllUnder Batch.interrupted builds .sample filter {}
    r.Fair 2 Batch.interrupted ∧ r.endsUnder Batch.interrupted builds .sample filter {} ∧
      Batch.Complete builds r
        [⟨"broken", .error (.crash "broken")⟩, ⟨"neg", Corpus.neg⟩] [] run ∧
      run.2 = [("broken", .failed (.crashed "broken" "broken")), ("neg", .cancelled)] ∧
      run.1.calls = [.error (.crash "broken")] := by
  intro r builds filter run
  have fair : r.Fair 2 Batch.interrupted := by
    unfold Runner.Fair
    decide
  have accepted : (Catalogue.sample.fixtures.filter fun f => filter f.name) =
      [⟨"broken", .error (.crash "broken")⟩, ⟨"neg", Corpus.neg⟩] := by
    simp [Catalogue.sample, filter]
  obtain ⟨ends, complete⟩ := (batch_complete builds r .sample filter {}).1 Batch.interrupted
  rw [accepted] at ends complete
  have ended := ends fair
  have outcomes :
      run.2 = [("broken", .failed (.crashed "broken" "broken")), ("neg", .cancelled)] := by decide
  have calls := (complete ended).calls
  rw [outcomes] at calls
  exact ⟨fair, ended, complete ended, outcomes, List.perm_singleton.1 calls⟩

end OnnxCorpus
