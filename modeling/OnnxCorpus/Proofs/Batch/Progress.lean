import OnnxCorpus.Proofs.Batch.Steps

/-!
# Progress of a batch

No step of a worker is in vain: a fixture takes a worker at most five of them, and each brings the
worker closer to its end (`stepsLeft_follow`). So a batch ends under every schedule that gives each
of its workers enough steps (`isDone_follow`), whatever else happens meanwhile.

A lone worker that is left to itself does what a caller does that generates the fixtures one after
the other (`withWorkers_lone`), so that a batch is a run under a schedule in either case
(`runAll_eq_runAllUnder`).
-/

namespace OnnxCorpus

namespace Batch

variable {β : Type} {builds : β → Build} {r : Runner} {selected : List (Fixture β)} {s : State β}

/-- A bound on the steps that a worker takes from a stage to its end, with some fixtures left to
take. -/
def Stage.stepsLeft (left : Nat) : Stage → Nat
  | .fetched _ => 5 * left + 5
  | .cleared _ => 5 * left + 4
  | .built .. => 5 * left + 3
  | .finished .. => 5 * left + 2
  | .idle => 5 * left + 1
  | .stopped => 0

theorem Stage.stepsLeft_mono (stage : Stage) {left left' : Nat} (h : left ≤ left') :
    stage.stepsLeft left ≤ stage.stepsLeft left' := by
  cases stage <;> simp only [stepsLeft] <;> omega

theorem Stage.eq_stopped_of_stepsLeft {stage : Stage} {left : Nat}
    (none : stage.stepsLeft left = 0) : stage = .stopped := by
  cases stage <;> simp_all [stepsLeft]

/-- A bound on the steps that a worker of a batch still takes. -/
def State.stepsLeft (fixtures : Nat) (s : State β) (worker : Nat) : Nat :=
  match s.workers[worker]? with
  | none => 0
  | some stage => stage.stepsLeft (fixtures - s.cursor)

theorem workers_advance (stage : Stage) :
    (advance builds r selected s stage).1.workers = s.workers := by
  cases stage <;> simp only [advance] <;> split <;> rfl

theorem cursor_le_advance (stage : Stage) :
    s.cursor ≤ (advance builds r selected s stage).1.cursor := by
  cases stage with
  | idle => exact Nat.le_succ _
  | cleared | built =>
    simp only [advance]
    split <;> exact Nat.le_refl _
  | fetched | finished | stopped => exact Nat.le_refl _

theorem stepsLeft_advance (stage : Stage) :
    (advance builds r selected s stage).2.stepsLeft
        (selected.length - (advance builds r selected s stage).1.cursor) ≤
      stage.stepsLeft (selected.length - s.cursor) - 1 := by
  cases stage with
  | idle | fetched | cleared | built =>
    simp only [advance]
    split <;> simp only [Stage.stepsLeft] <;> omega
  | finished =>
    simp only [advance, Stage.stepsLeft]
    omega
  | stopped => exact Nat.zero_le _

theorem cursor_le_next (event : Event) :
    s.cursor ≤ (next builds r selected s event).cursor := by
  cases event with
  | signal => exact Nat.le_refl _
  | step worker =>
    rw [next]
    split
    · exact Nat.le_refl _
    · exact cursor_le_advance _

theorem length_workers_next (event : Event) :
    (next builds r selected s event).workers.length = s.workers.length := by
  cases event with
  | signal => rfl
  | step worker =>
    rw [next]
    split
    · rfl
    · simp [workers_advance]

/-- A step brings its worker closer to the end. -/
theorem stepsLeft_next_step (worker : Nat) :
    (next builds r selected s (.step worker)).stepsLeft selected.length worker ≤
      s.stepsLeft selected.length worker - 1 := by
  rw [next]
  cases found : s.workers[worker]? with
  | none => simp [State.stepsLeft, found]
  | some stage =>
    have inside : worker < s.workers.length := (List.getElem?_eq_some_iff.1 found).1
    simp only [State.stepsLeft, workers_advance, List.getElem?_set_self inside, found]
    exact stepsLeft_advance stage

/-- A step of a worker leaves the others where they are. -/
theorem getElem?_workers_next_step {worker other : Nat} (apart : other ≠ worker) :
    (next builds r selected s (.step other)).workers[worker]? = s.workers[worker]? := by
  rw [next]
  cases s.workers[other]? with
  | none => rfl
  | some stage => simp only [workers_advance, List.getElem?_set_ne apart]

/-- No event takes a worker away from its end. -/
theorem stepsLeft_next_le (event : Event) (worker : Nat) :
    (next builds r selected s event).stepsLeft selected.length worker ≤
      s.stepsLeft selected.length worker := by
  cases event with
  | signal => exact Nat.le_refl _
  | step other =>
    by_cases same : other = worker
    · subst same
      exact Nat.le_trans (stepsLeft_next_step other) (Nat.sub_le _ _)
    · rw [State.stepsLeft, State.stepsLeft, getElem?_workers_next_step same]
      cases s.workers[worker]? with
      | none => exact Nat.le_refl _
      | some still => exact still.stepsLeft_mono (Nat.sub_le_sub_left (cursor_le_next _) _)

theorem stepsLeft_follow (schedule : List Event) (worker : Nat) :
    (follow builds r selected schedule s).stepsLeft selected.length worker ≤
      s.stepsLeft selected.length worker - schedule.count (.step worker) := by
  induction schedule generalizing s with
  | nil => exact Nat.le_refl _
  | cons event rest ih =>
    refine Nat.le_trans ih ?_
    by_cases own : event = .step worker
    · subst own
      have closer : (next builds r selected s (.step worker)).stepsLeft selected.length worker ≤
          s.stepsLeft selected.length worker - 1 := stepsLeft_next_step worker
      rw [List.count_cons_self]
      omega
    · rw [List.count_cons_of_ne own]
      exact Nat.sub_le_sub_right (stepsLeft_next_le event worker) _

theorem length_workers_follow (schedule : List Event) :
    (follow builds r selected schedule s).workers.length = s.workers.length := by
  induction schedule generalizing s with
  | nil => rfl
  | cons event rest ih => exact ih.trans (length_workers_next event)

theorem isDone_of_stepsLeft (fixtures : Nat)
    (close : ∀ worker < s.workers.length, s.stepsLeft fixtures worker = 0) : s.isDone := by
  rw [State.isDone, List.all_eq_true]
  intro stage member
  obtain ⟨worker, inside, here⟩ := List.getElem_of_mem member
  have last := close worker inside
  rw [State.stepsLeft, List.getElem?_eq_getElem inside, here] at last
  rw [Stage.eq_stopped_of_stepsLeft last]

/-- The steps that a schedule has to give a worker so that it surely comes to its end. -/
def stepsEnough (fixtures : Nat) : Nat := 5 * fixtures + 1

theorem stepsLeft_initial {workers worker : Nat} (inside : worker < workers) (w : Workspace β)
    (fixtures : Nat) :
    (State.initial workers w).stepsLeft fixtures worker = stepsEnough fixtures := by
  simp [State.stepsLeft, State.initial, inside, Stage.stepsLeft, stepsEnough]

/-- A batch ends under a schedule that gives every worker enough steps. -/
theorem isDone_follow {workers : Nat} {schedule : List Event}
    (fair : ∀ worker < workers, stepsEnough selected.length ≤ schedule.count (.step worker))
    (w : Workspace β) : (follow builds r selected schedule (.initial workers w)).isDone := by
  refine isDone_of_stepsLeft selected.length fun worker inside => ?_
  rw [length_workers_follow, State.initial, List.length_replicate] at inside
  refine Nat.le_zero.1 (Nat.le_trans (stepsLeft_follow schedule worker) ?_)
  rw [stepsLeft_initial inside, Nat.sub_eq_zero_of_le (fair worker inside)]

/-! ### A lone worker -/

/-- The events of a lone worker that takes some steps. -/
def steps (count : Nat) : List Event := List.replicate count (.step 0)

theorem follow_steps_add (m n : Nat) (s : State β) :
    follow builds r selected (steps (m + n)) s =
      follow builds r selected (steps n) (follow builds r selected (steps m) s) := by
  rw [steps, List.replicate_add, follow, List.foldl_append]
  rfl

theorem follow_steps_of_stopped (stopped : s.workers = [.stopped]) (count : Nat) :
    follow builds r selected (steps count) s = s := by
  induction count with
  | zero => rfl
  | succ count ih =>
    have still : next builds r selected s (.step 0) = s := by
      simp [next, stopped, advance]
      rw [← stopped]
    rw [steps, List.replicate_succ, follow, List.foldl_cons, still]
    exact ih

/-- A lone worker stops in one state only. -/
theorem follow_steps_unique {m n : Nat}
    (stopped : (follow builds r selected (steps m) s).workers = [.stopped])
    (stopped' : (follow builds r selected (steps n) s).workers = [.stopped]) :
    follow builds r selected (steps m) s = follow builds r selected (steps n) s := by
  rw [← follow_steps_of_stopped stopped n, ← follow_steps_add, Nat.add_comm, follow_steps_add,
    follow_steps_of_stopped stopped' m]

/-- A lone worker that is left to itself comes from one state of a batch to another. -/
def Reaches (builds : β → Build) (r : Runner) (selected : List (Fixture β)) (s s' : State β) :
    Prop :=
  ∃ count, follow builds r selected (steps count) s = s'

variable {place : Nat}

/-- A lone worker attempts the next fixture. -/
theorem reaches_attempt {f : Fixture β} (found : selected[place]? = some f)
    (sent : List (Nat × Outcome)) (w : Workspace β) :
    Reaches builds r selected ⟨place, [.idle], sent, w⟩
      ⟨place + 1, [.idle], sent ++ [(place, (attempt builds r f w).2)],
        (attempt builds r f w).1⟩ := by
  obtain ⟨inside, rfl⟩ := List.getElem?_eq_some_iff.1 found
  cases flag : w.cancelled with
  | true => exact ⟨3, by simp [steps, List.replicate, follow, next, advance, inside, attempt, flag]⟩
  | false =>
    exact ⟨5, by simp [steps, List.replicate, follow, next, advance, inside, attempt, flag,
      Fixture.generate_eq]⟩

/-- A lone worker attempts the fixtures that are left, one after the other. -/
theorem reaches_inOrder {rest : List (Fixture β)} (left : selected.drop place = rest)
    (sent : List (Nat × Outcome)) (w : Workspace β) :
    Reaches builds r selected ⟨place, [.idle], sent, w⟩
      ⟨place + rest.length + 1, [.stopped],
        sent ++ (List.range' place rest.length).zip ((inOrder builds r rest w).2.map (·.2)),
        (inOrder builds r rest w).1⟩ := by
  induction rest generalizing place sent w with
  | nil =>
    have past : ¬place < selected.length := Nat.not_lt.2 (List.drop_eq_nil_iff.1 left)
    exact ⟨1, by simp [steps, List.replicate, follow, next, advance, past, inOrder]⟩
  | cons f rest ih =>
    have found : selected[place]? = some f := by
      rw [← List.head?_drop, left, List.head?_cons]
    have later : selected.drop (place + 1) = rest := by
      rw [← List.tail_drop, left, List.tail_cons]
    obtain ⟨first, attempted⟩ : Reaches builds r selected _ _ := reaches_attempt found sent w
    obtain ⟨more, ended⟩ := ih later (sent ++ [(place, (attempt builds r f w).2)])
      (attempt builds r f w).1
    refine ⟨first + more, ?_⟩
    rw [follow_steps_add, attempted, ended]
    have last : place + 1 + rest.length = place + (rest.length + 1) := by omega
    simp [inOrder, List.range'_succ, last]

theorem length_inOrder (fixtures : List (Fixture β)) (w : Workspace β) :
    (inOrder builds r fixtures w).2.length = fixtures.length := by
  induction fixtures generalizing w with
  | nil => rfl
  | cons f rest ih => simp [inOrder, ih]

theorem zipWith_inOrder (fixtures : List (Fixture β)) (w : Workspace β) :
    List.zipWith (fun f outcome => (f.name, outcome)) fixtures
      ((inOrder builds r fixtures w).2.map (·.2)) = (inOrder builds r fixtures w).2 := by
  induction fixtures generalizing w with
  | nil => rfl
  | cons f rest ih => simp [inOrder, ih]

/-- A lone worker with enough steps generates the fixtures one after the other. -/
theorem withWorkers_lone {count : Nat} (enough : stepsEnough selected.length ≤ count)
    (w : Workspace β) :
    withWorkers builds r 1 (steps count) selected w = inOrder builds r selected w := by
  obtain ⟨more, reached⟩ : Reaches builds r selected (.initial 1 w) _ :=
    reaches_inOrder List.drop_zero [] w
  have done : (follow builds r selected (steps count) (.initial 1 w)).isDone :=
    isDone_follow (fun worker lone => by
      rw [Nat.lt_one_iff.1 lone, steps, List.count_replicate_self]
      exact enough) w
  have stopped : (follow builds r selected (steps count) (.initial 1 w)).workers = [.stopped] := by
    have size : (follow builds r selected (steps count) (.initial 1 w)).workers.length = 1 :=
      length_workers_follow _
    obtain ⟨stage, lone⟩ := List.length_eq_one_iff.1 size
    rw [State.isDone, lone] at done
    cases stage <;> simp_all
  -- Both runs of the worker stop, so they end alike, whichever of them is the longer one.
  have ended := (follow_steps_unique stopped (congrArg State.workers reached)).trans reached
  have sent : (follow builds r selected (steps count) (.initial 1 w)).sent.Perm
      ((List.range selected.length).zip ((inOrder builds r selected w).2.map (·.2))) := by
    rw [ended, List.nil_append, List.range_eq_range']
  have size : ((inOrder builds r selected w).2.map (·.2)).length = selected.length := by
    rw [List.length_map, length_inOrder]
  rw [withWorkers, collect_eq size sent, zipWith_inOrder, ended]

theorem firstWorkerOnly_one (fixtures : Nat) :
    firstWorkerOnly 1 fixtures = steps (stepsEnough fixtures + 1) :=
  List.replicate_succ'.symm

end Batch

namespace Runner

variable {β : Type} (schedule : List Batch.Event) (builds : β → Build) (r : Runner)
  (c : Catalogue β) (filter : String → Bool) (w : Workspace β)

/-- Whether every worker of a batch has stopped at the end of a schedule. -/
def endsUnder : Bool :=
  (Batch.follow builds r (c.select filter) schedule
    (.initial (r.threads (c.select filter).length) w)).isDone

/-- A schedule gives every worker of a batch enough steps. -/
def Fair (r : Runner) (fixtures : Nat) (schedule : List Batch.Event) : Prop :=
  ∀ worker < r.threads fixtures, Batch.stepsEnough fixtures ≤ schedule.count (.step worker)

theorem endsUnder_of_fair (fair : r.Fair (c.select filter).length schedule) :
    r.endsUnder schedule builds c filter w :=
  Batch.isDone_follow fair w

theorem threads_pos (fixtures : Nat) : 0 < r.threads fixtures := by
  rw [threads]
  split <;> omega

/-- A batch has workers. -/
theorem manned :
    0 < (Batch.follow builds r (c.select filter) schedule
      (.initial (r.threads (c.select filter).length) w)).workers.length := by
  rw [Batch.length_workers_follow, Batch.State.initial, List.length_replicate]
  exact r.threads_pos _

/-- A batch is a run of its workers, also where the caller does the work. -/
theorem runAll_eq_runAllUnder :
    r.runAll builds c filter w =
      r.runAllUnder (Batch.firstWorkerOnly (r.threads (c.select filter).length)
        (c.select filter).length) builds c filter w := by
  rw [runAll, runAllUnder, threads]
  by_cases lone : r.workers ≤ 1 ∨ (c.select filter).length ≤ 1
  · rw [if_pos lone, if_pos lone, Batch.firstWorkerOnly_one]
    exact (Batch.withWorkers_lone (Nat.le_succ _) w).symm
  · rw [if_neg lone, if_neg lone]

end Runner

end OnnxCorpus
