import OnnxCorpus.Proofs.Batch.Serial
import Mathlib.Data.List.Induction

/-!
# Cancelled batches

Once the flag of a batch is set and until somebody clears it, no further fixture passes its check
(`Halting`, kept by every event). So only the fixtures under way at that moment are still built and
saved, and the others are refused (`Halted`). A lone worker refuses none before one that it starts
(`Blocks`). No batch clears the flag, so that the batches after it refuse everything
(`cancellation_sticks`).
-/

namespace OnnxCorpus

namespace Batch

variable {β : Type} {builds : β → Build} {r : Runner} {selected : List (Fixture β)}
  {calls : List β} {event : Event} {s₀ s s' : State β}

/-! ### The flag is set -/

/-- With the flag set, a batch went on from a state `s₀` to a state `s`. -/
structure Halting (s₀ s : State β) : Prop where
  flag : s.workspace.cancelled = true
  started : s.started = s₀.started
  calls : s₀.workspace.calls <+: s.workspace.calls

theorem eq_true_of_signal {cancelled : Bool} (sent : event = .signal cancelled)
    (kept : event ≠ .signal false) : cancelled = true := by
  cases cancelled with
  | true => rfl
  | false => exact absurd sent kept

theorem Halting.moves (halting : Halting s₀ s) (kept : event ≠ .signal false)
    (moves : Moves builds r selected event s s') : Halting s₀ s' := by
  obtain ⟨flag, started, calls⟩ := halting
  have same {old new : Stage} (moved : Replaces s.pool s'.pool old new)
      (alike : new.started? = old.started?) : s'.started = s₀.started :=
    (moved.filterMap_eq alike).trans started
  cases moves with
  | fetch more moved cursor workspace | stop past moved cursor workspace =>
    exact ⟨workspace ▸ flag, same moved rfl, workspace ▸ calls⟩
  | refuse place set moved cursor workspace =>
    exact ⟨workspace ▸ flag, same moved (by simp [Stage.started?]), workspace ▸ calls⟩
  | clear place unset moved cursor workspace =>
    rw [flag] at unset
    cases unset
  | build place f found moved cursor workspace =>
    refine ⟨?_, same moved rfl, ?_⟩
    · simp [workspace, Fixture.buildModel, Fixture.call, flag]
    · rw [workspace]
      exact calls.trans (List.prefix_append _ _)
  | save place f found built moved cursor workspace =>
    exact ⟨by rw [workspace, ← flag], same moved (if_neg ofResult_ne_cancelled),
      by rwa [workspace]⟩
  | send moved cursor workspace =>
    exact ⟨workspace ▸ flag, (filterMap_send rfl moved).trans started, workspace ▸ calls⟩
  | signal cancelled sent moved cursor workspace =>
    have on : cancelled = true := eq_true_of_signal sent kept
    have same : s'.started = s.started := congrArg (Multiset.filterMap _) moved
    exact ⟨by rw [workspace, on], same.trans started, by rwa [workspace]⟩
  | rest same => exact same ▸ ⟨flag, started, calls⟩

/-- Once the flag is set and until somebody clears it, no further fixture passes its check. -/
theorem halting_follow (accounts : Accounts builds r selected calls s)
    (set : s.workspace.cancelled = true) {schedule : List Event}
    (kept : .signal false ∉ schedule) : Halting s (follow builds r selected schedule s) := by
  refine (follow_induction (P := fun s' => Accounts builds r selected calls s' ∧ Halting s s')
    (fun s' event member both => ?_) ⟨accounts, set, rfl, List.prefix_rfl⟩).2
  obtain ⟨accounts, halting⟩ := both
  have moves : Moves builds r selected event s' _ := moves_next event accounts.place_lt
  exact ⟨accounts.moves moves, halting.moves (fun same => kept (same ▸ member)) moves⟩

/-- A value of some stages of a pool is a part of one of more stages. -/
theorem filterMap_le {γ : Type} {f h : Stage → Option γ}
    (part : ∀ stage, f stage = none ∨ f stage = h stage) (pool : Multiset Stage) :
    pool.filterMap f ≤ pool.filterMap h := by
  let others (stage : Stage) : Option γ := if (f stage).isNone then h stage else none
  have split : pool.filterMap h = pool.filterMap f + pool.filterMap others := by
    refine filterMap_eq_add (fun stage => ?_) pool
    cases value : f stage with
    | none => exact .inl ⟨rfl, by simp [others, value]⟩
    | some c =>
      refine .inr ⟨by simp [others, value], ?_⟩
      rcases part stage with none | same
      · rw [value] at none
        cases none
      · exact same.symm.trans value
  exact split ▸ Multiset.le_add_right _ _

/-- There are no more fixtures still to be built than workers and than fixtures. -/
theorem Accounts.card_cleared_le (accounts : Accounts builds r selected calls s) :
    s.cleared.card ≤ min s.workers.length selected.length := by
  refine Nat.le_min.2 ⟨?_, ?_⟩
  · have unsent : List.filterMap (fun _ => none) s.sent = ([] : List Nat) :=
      List.filterMap_eq_nil_iff.2 fun _ _ => rfl
    have working : s.cleared =
        ↑(s.workers.filterMap Stage.cleared? ++ s.sent.filterMap fun _ => (none : Option Nat)) := by
      unfold State.cleared State.pool
      rw [Multiset.coe_add, Multiset.filterMap_coe, List.filterMap_append, List.filterMap_map]
      rfl
    rw [working, unsent, List.append_nil]
    exact List.length_filterMap_le _ _
  · have part : s.cleared ≤ s.pool.filterMap Stage.place? := by
      refine filterMap_le (fun stage => ?_) s.pool
      cases stage with
      | cleared place => exact .inr rfl
      | idle | fetched | built | finished | stopped => exact .inl rfl
    rw [accounts.places] at part
    refine Nat.le_trans (Multiset.card_le_card part) ?_
    rw [Multiset.card_range]
    exact Nat.min_le_right _ _

theorem Stage.place?_of_started? {stage : Stage} {place : Nat}
    (started : stage.started? = some place) : stage.place? = some place := by
  cases stage with
  | finished p outcome =>
    rw [Stage.started?] at started
    split at started
    · cases started
    · exact started
  | cleared | built => exact started
  | idle | fetched | stopped => cases started

theorem Accounts.mem_started_iff (accounts : Accounts builds r selected calls s) {place : Nat}
    {outcome : Outcome} (member : .finished place outcome ∈ s.pool) :
    place ∈ s.started ↔ outcome ≠ .cancelled := by
  refine (Multiset.mem_filterMap _ _).trans ⟨?_, fun finished => ?_⟩
  · rintro ⟨stage, member', here⟩
    rw [accounts.eq_of_place member' member (Stage.place?_of_started? here) rfl,
      Stage.started?] at here
    rintro rfl
    cases here
  · exact ⟨_, member, if_neg finished⟩

/-- Once every worker has stopped, nothing is under way. -/
theorem underway_of_isDone (done : s.isDone) : s.underway = 0 ∧ s.cleared = 0 := by
  unfold State.underway State.cleared
  rw [filterMap_pool_of_isDone rfl done, filterMap_pool_of_isDone rfl done]
  simp [Stage.underway?, Stage.cleared?]

/-- What comes of a batch that began in a workspace, and whose flag was set in a state `s` and not
cleared since. -/
structure Halted (builds : β → Build) (r : Runner) (selected : List (Fixture β)) (w : Workspace β)
    (s : State β) (run : Workspace β × List (String × Outcome)) : Prop where
  flag : run.1.cancelled = true
  names : run.2.map (·.1) = selected.map (·.name)
  refused : ∀ place entry, run.2[place]? = some entry →
    (entry.2 = .cancelled ↔ place ∉ s.started)
  kept : ∀ place outcome, .finished place outcome ∈ s.pool →
    run.2[place]?.map (·.2) = some outcome
  called : (run.1.calls : Multiset β) = w.calls + buildersAt selected s.started
  calledSince : ∃ since, run.1.calls = s.workspace.calls ++ since ∧
    (since : Multiset β) = buildersAt selected s.cleared ∧
    since.length ≤ min r.workers selected.length
  saved : ∃ order : List Nat, (order : Multiset Nat) = s.saved ∧
    s.workspace.tree = saveAll builds r (fixturesAt selected order) w.tree
  savedSince : ∃ order : List Nat, (order : Multiset Nat) = s.underway ∧
    run.1.tree = saveAll builds r (fixturesAt selected order) s.workspace.tree

theorem called_of_isDone (selected : List (Fixture β)) (done : s.isDone) :
    s.pool.filterMap (Stage.called? selected) = buildersAt selected s.started := by
  have none : buildersAt selected 0 = 0 := rfl
  rw [filterMap_called_add, (underway_of_isDone done).2, none, add_zero]

theorem card_buildersAt_le (selected : List (Fixture β)) (places : Multiset Nat) :
    (buildersAt selected places).card ≤ places.card := by
  induction places using Quotient.inductionOn with
  | h places => exact List.length_filterMap_le _ _

section

variable (halting : Halting s₀ s) (accounts : Accounts builds r selected calls s) (done : s.isDone)

include halting done

/-- The fixtures saved with the flag set are those that were under way. -/
theorem Halting.saves_since {order : List Nat} (serial : Serial builds r selected s₀ s order) :
    (order : Multiset Nat) = s₀.underway := by
  have all : (order : Multiset Nat) + s₀.saved = s₀.underway + s₀.saved := by
    rw [← serial.saved, ← started_eq, ← halting.started, started_eq,
      (underway_of_isDone done).1, zero_add]
  exact add_right_cancel all

include accounts

/-- The builders called are those of the fixtures that were past their check. -/
theorem Halting.calls_all :
    (s.workspace.calls : Multiset β) = calls + buildersAt selected s₀.started := by
  rw [accounts.calls, called_of_isDone selected done, halting.started]

/-- The builders called with the flag set are those of the fixtures that were still to be built. -/
theorem Halting.calls_since (accounts₀ : Accounts builds r selected calls s₀) :
    ∃ since, s.workspace.calls = s₀.workspace.calls ++ since ∧
      (since : Multiset β) = buildersAt selected s₀.cleared := by
  obtain ⟨since, appended⟩ := halting.calls
  refine ⟨since, appended.symm, ?_⟩
  have all : (s₀.workspace.calls : Multiset β) + since =
      s₀.workspace.calls + buildersAt selected s₀.cleared := by
    rw [Multiset.coe_add, appended, halting.calls_all accounts done, accounts₀.calls, add_assoc,
      ← filterMap_called_add]
  exact add_left_cancel all

end

/-- A batch that has ended with the flag set since a state between saved what was under way in that
state, and refused what was not past its check. -/
theorem halted_follow {workers : Nat} {w : Workspace β} {before after : List Event}
    (manned : 0 < workers) (few : workers ≤ r.workers)
    (reached : follow builds r selected before (.initial workers w) = s)
    (set : s.workspace.cancelled = true) (kept : .signal false ∉ after)
    (done : (follow builds r selected after s).isDone) :
    Halted builds r selected w s ((follow builds r selected after s).workspace,
      (follow builds r selected after s).collect selected) := by
  have accounts : Accounts builds r selected w.calls s :=
    reached ▸ accounts_follow workers before w
  have accounts' := accounts.after after
  have halting := halting_follow accounts set kept
  have start : Accounts builds r selected w.calls (.initial workers w) := accounts_initial workers w
  -- The saves of the whole batch are those up to the state between, and then those since.
  obtain ⟨order, serial⟩ := serial_follow before start
  obtain ⟨order', serial'⟩ := serial_follow after accounts
  rw [reached] at serial
  have size : s.workers.length = workers := by
    rw [← reached, length_workers_follow, State.initial, List.length_replicate]
  have manned' : 0 < (follow builds r selected after s).workers.length := by
    rwa [length_workers_follow, size]
  obtain ⟨since, appended, builders⟩ := halting.calls_since accounts' done accounts
  refine {
    flag := halting.flag
    names := (accounts'.complete done manned').names
    refused := fun place entry here => ?_
    kept := fun place outcome member => ?_
    called := halting.calls_all accounts' done
    calledSince := ⟨since, appended, builders, ?_⟩
    saved := ⟨order, ?_, serial.tree⟩
    savedSince := ⟨order', halting.saves_since done serial', serial'.tree⟩ }
  · -- Since the flag was set, no place was started that was not before.
    obtain ⟨f, -, -, member⟩ := (accounts'.getElem?_collect_eq_some_iff done manned').1 here
    rw [← halting.started, accounts'.mem_started_iff member, not_not]
  · have member' := serial'.finished place outcome member
    have inside := accounts.place_lt _ member place rfl
    have entry : _ = some (selected[place].name, outcome) :=
      (accounts'.getElem?_collect_eq_some_iff done manned').2
        ⟨_, List.getElem?_eq_getElem inside, rfl, member'⟩
    rw [entry]
    rfl
  · have most : since.length ≤ s.cleared.card := by
      rw [← Multiset.coe_card, builders]
      exact card_buildersAt_le selected s.cleared
    have bound := accounts.card_cleared_le
    rw [size] at bound
    omega
  · have none : (State.initial workers w).saved = 0 := filterMap_pool_initial rfl workers w
    rw [serial.saved, none, add_zero]

/-! ### A lone worker -/

/-- The fixture that a worker has not checked yet is the last one taken. -/
def LastTaken (s : State β) : Prop :=
  ∀ place, .fetched place ∈ s.pool → place + 1 = s.cursor

theorem fetched_mem_pool_iff {place : Nat} :
    .fetched place ∈ s.pool ↔ .fetched place ∈ s.workers := by
  simp [State.pool]

theorem lastTaken_next (lone : s.workers.length = 1) (event : Event) (last : LastTaken s) :
    LastTaken (next builds r selected s event) := by
  unfold LastTaken at last ⊢
  simp only [fetched_mem_pool_iff] at last ⊢
  cases event with
  | signal cancelled => exact last
  | step worker =>
    rw [next]
    cases found : s.workers[worker]? with
    | none => exact last
    | some stage =>
      -- The only worker is the one that takes the step.
      obtain ⟨only, alone⟩ := List.length_eq_one_iff.1 lone
      have first : worker = 0 := by
        have inside := (List.getElem?_eq_some_iff.1 found).1
        omega
      subst first
      simp only [workers_advance, alone, List.set_cons_zero, List.mem_singleton]
      intro place taken
      cases stage with
      | idle =>
        simp only [advance] at taken ⊢
        split at taken
        · cases taken
          rfl
        · cases taken
      | fetched | cleared | built =>
        simp only [advance] at taken
        split at taken <;> cases taken
      | finished | stopped => cases taken

theorem lastTaken_follow (lone : s.workers.length = 1) (schedule : List Event)
    (last : LastTaken s) : LastTaken (follow builds r selected schedule s) := by
  refine (follow_induction (P := fun s => s.workers.length = 1 ∧ LastTaken s)
    (fun s event _ both => ?_) ⟨lone, last⟩).2
  exact ⟨(length_workers_next event).trans both.1, lastTaken_next both.1 event both.2⟩

/-- The place of a fixture that was refused. -/
def Stage.refused? : Stage → Option Nat
  | .finished place outcome => if outcome = .cancelled then some place else none
  | .idle | .fetched _ | .cleared _ | .built .. | .stopped => none

/-- The places of the fixtures that were refused. -/
def State.refused (s : State β) : Multiset Nat := s.pool.filterMap Stage.refused?

/-- The flag is set since a fixture was refused, and none after that one was started. -/
def Blocks (s : State β) : Prop :=
  ∀ place ∈ s.refused, s.workspace.cancelled = true ∧ ∀ other ∈ s.started, other < place

theorem Blocks.moves (blocks : Blocks s) (accounts : Accounts builds r selected calls s)
    (last : LastTaken s) (kept : event = .signal false → s.workspace.cancelled = false)
    (moves : Moves builds r selected event s s') : Blocks s' := by
  have carried (refused : s'.refused = s.refused) (started : s'.started = s.started)
      (flag : s.workspace.cancelled = true → s'.workspace.cancelled = true) : Blocks s' := by
    unfold Blocks
    rw [refused, started]
    exact fun place member => ⟨flag (blocks place member).1, (blocks place member).2⟩
  cases moves with
  | fetch more moved cursor workspace | stop past moved cursor workspace =>
    exact carried (moved.filterMap_eq rfl) (moved.filterMap_eq rfl) (fun flag => workspace ▸ flag)
  | refuse place flag moved cursor workspace =>
    -- The places taken before this one are smaller, and so are those of the fixtures started.
    have smaller : ∀ other ∈ s.started, other < place := by
      intro other started
      obtain ⟨stage, member, here⟩ := (Multiset.mem_filterMap _ _).1 started
      have taken : other ∈ s.pool.filterMap Stage.place? :=
        (Multiset.mem_filterMap _ _).2 ⟨stage, member, Stage.place?_of_started? here⟩
      have apart : other ≠ place := by
        rintro rfl
        rw [accounts.eq_of_place member moved.mem_old (Stage.place?_of_started? here) rfl] at here
        cases here
      have newest := last place moved.mem_old
      rw [accounts.places, Multiset.mem_range] at taken
      omega
    have refused : s'.refused = place ::ₘ s.refused :=
      moved.filterMap_cons rfl (by simp [Stage.refused?])
    have started : s'.started = s.started := moved.filterMap_eq (by simp [Stage.started?])
    unfold Blocks
    rw [refused, started, workspace]
    refine Multiset.forall_mem_cons.2 ⟨⟨flag, smaller⟩, blocks⟩
  | clear place flag moved cursor workspace =>
    have none : s.refused = 0 := by
      refine Multiset.eq_zero_of_forall_notMem fun other member => ?_
      rw [(blocks other member).1] at flag
      cases flag
    have refused : s'.refused = 0 := (moved.filterMap_eq rfl).trans none
    unfold Blocks
    rw [refused]
    exact fun place member => absurd member (Multiset.notMem_zero place)
  | build place f found moved cursor workspace =>
    refine carried (moved.filterMap_eq rfl) (moved.filterMap_eq rfl) fun flag => ?_
    simp [workspace, Fixture.buildModel, Fixture.call, flag]
  | save place f found built moved cursor workspace =>
    refine carried (moved.filterMap_eq (if_neg ofResult_ne_cancelled))
      (moved.filterMap_eq (if_neg ofResult_ne_cancelled)) fun flag => ?_
    rw [workspace, ← flag]
  | send moved cursor workspace =>
    exact carried (filterMap_send rfl moved) (filterMap_send rfl moved) fun flag => workspace ▸ flag
  | signal cancelled sent moved cursor workspace =>
    refine carried (congrArg (Multiset.filterMap _) moved) (congrArg (Multiset.filterMap _) moved)
      fun flag => ?_
    rw [workspace]
    cases cancelled with
    | true => rfl
    | false => exact absurd flag (Bool.eq_false_iff.1 (kept sent))
  | rest same => exact same ▸ blocks

/-- Nobody clears the flag of a batch once it is set. -/
def NeverCleared (builds : β → Build) (r : Runner) (selected : List (Fixture β))
    (schedule : List Event) (s : State β) : Prop :=
  ∀ before after, schedule = before ++ .signal false :: after →
    (follow builds r selected before s).workspace.cancelled = false

theorem blocks_follow (lone : s.workers.length = 1)
    (accounts : Accounts builds r selected calls s) (last : LastTaken s) (blocks : Blocks s)
    {schedule : List Event} (kept : NeverCleared builds r selected schedule s) :
    Blocks (follow builds r selected schedule s) := by
  induction schedule using List.reverseRecOn with
  | nil => exact blocks
  | append_singleton before event ih =>
    have earlier : NeverCleared builds r selected before s := fun first rest split =>
      kept first (rest ++ [event]) (by rw [split, List.append_assoc, List.cons_append])
    have moves : Moves builds r selected event _ _ :=
      moves_next event (accounts.after before).place_lt
    rw [follow, List.foldl_append]
    refine (ih earlier).moves (accounts.after before) (lastTaken_follow lone before last)
      (fun same => ?_) moves
    exact kept before [] (by rw [same])

/-- Outcomes of fixtures that were started, and then those of fixtures that were refused. -/
def InBlocks (outcomes : List (String × Outcome)) : Prop :=
  ∃ started refused, outcomes = started ++ refused ∧
    (∀ entry ∈ started, entry.2 ≠ .cancelled) ∧ ∀ entry ∈ refused, entry.2 = .cancelled

/-- A property that all elements after one with it have as well splits a list in two. -/
theorem exists_append_of_pairwise {α : Type} {p : α → Prop} {xs : List α}
    (kept : xs.Pairwise fun a b => p a → p b) :
    ∃ before after, xs = before ++ after ∧ (∀ a ∈ before, ¬p a) ∧ ∀ a ∈ after, p a := by
  induction xs with
  | nil => exact ⟨[], [], rfl, nofun, nofun⟩
  | cons x rest ih =>
    obtain ⟨first, later⟩ := List.pairwise_cons.1 kept
    by_cases here : p x
    · exact ⟨[], x :: rest, rfl, nofun,
        List.forall_mem_cons.2 ⟨here, fun a member => first a member here⟩⟩
    · obtain ⟨before, after, rfl, without, within⟩ := ih later
      exact ⟨x :: before, after, rfl, List.forall_mem_cons.2 ⟨here, without⟩, within⟩

theorem Blocks.collect (blocks : Blocks s) (manned : 0 < s.workers.length)
    (accounts : Accounts builds r selected calls s) (done : s.isDone) :
    InBlocks (s.collect selected) := by
  refine exists_append_of_pairwise (p := fun entry : String × Outcome => entry.2 = .cancelled) ?_
  rw [List.pairwise_iff_getElem]
  intro i j inside inside' before refused
  obtain ⟨-, -, -, first⟩ := (accounts.getElem?_collect_eq_some_iff done manned).1
    (List.getElem?_eq_getElem inside)
  obtain ⟨-, -, -, second⟩ := (accounts.getElem?_collect_eq_some_iff done manned).1
    (List.getElem?_eq_getElem inside')
  rw [refused] at first
  by_contra started
  have member := (accounts.mem_started_iff second).2 started
  have among : i ∈ s.refused :=
    (Multiset.mem_filterMap _ _).2 ⟨_, first, by simp [Stage.refused?]⟩
  exact Nat.lt_asymm before ((blocks i among).2 j member)

/-! ### Batch after batch -/

/-- With the flag set and nothing past its check, no event changes the workspace. -/
theorem Moves.workspace_eq (moves : Moves builds r selected event s s') (none : s.started = 0)
    (set : s.workspace.cancelled = true) (kept : event ≠ .signal false) :
    s'.workspace = s.workspace := by
  have unstarted {stage : Stage} {place : Nat} (member : stage ∈ s.pool)
      (here : stage.started? = some place) : False := by
    have among : place ∈ s.started := (Multiset.mem_filterMap _ _).2 ⟨stage, member, here⟩
    rw [none] at among
    exact Multiset.notMem_zero place among
  cases moves with
  | fetch _ _ _ workspace | stop _ _ _ workspace | refuse _ _ _ _ workspace
  | clear _ _ _ _ workspace | send _ _ workspace => exact workspace
  | build place f found moved => exact (unstarted moved.mem_old rfl).elim
  | save place f found built moved => exact (unstarted moved.mem_old rfl).elim
  | signal cancelled sent moved cursor workspace =>
    have on : cancelled = true := eq_true_of_signal sent kept
    rw [workspace, on, ← set]
  | rest same => rw [same]

section

variable {workers : Nat} {w : Workspace β} {schedule : List Event} (set : w.cancelled = true)
  (kept : .signal false ∉ schedule)

include set kept

theorem workspace_follow_of_cancelled :
    (follow builds r selected schedule (.initial workers w)).workspace = w := by
  have start : Accounts builds r selected w.calls (.initial workers w) := accounts_initial workers w
  refine (follow_induction (P := fun s => Accounts builds r selected w.calls s ∧
    Halting (.initial workers w) s ∧ s.workspace = w) (fun s event member all => ?_)
    ⟨start, ⟨set, rfl, List.prefix_rfl⟩, rfl⟩).2.2
  obtain ⟨accounts, halting, same⟩ := all
  have moves : Moves builds r selected event s _ := moves_next event accounts.place_lt
  have harmless : event ≠ .signal false := fun clears => kept (clears ▸ member)
  have nothing : s.started = 0 := halting.started.trans (filterMap_pool_initial rfl workers w)
  exact ⟨accounts.moves moves, halting.moves harmless moves,
    (moves.workspace_eq nothing halting.flag harmless).trans same⟩

/-- A batch that begins with the flag set refuses every fixture. -/
theorem collect_of_cancelled (manned : 0 < workers)
    (done : (follow builds r selected schedule (.initial workers w)).isDone) :
    (follow builds r selected schedule (.initial workers w)).collect selected =
      selected.map fun f => (f.name, .cancelled) := by
  have start : Accounts builds r selected w.calls (.initial workers w) := accounts_initial workers w
  have accounts := start.after schedule
  have nothing := (halting_follow start set kept).started.trans
    (filterMap_pool_initial rfl workers w)
  have size :
      (follow builds r selected schedule (.initial workers w)).workers.length = workers := by
    rw [length_workers_follow, State.initial, List.length_replicate]
  have entries := accounts.forall₂_collect (P := fun _ outcome => outcome = .cancelled) done
    (by rwa [size]) fun place outcome member _ _ => by
      by_contra started
      have among := (accounts.mem_started_iff member).2 started
      rw [nothing] at among
      exact Multiset.notMem_zero place among
  rw [← List.forall₂_eq_eq_eq, List.forall₂_map_right_iff]
  exact (entries.imp fun _ _ same => Prod.ext same.1 same.2).flip

end

end Batch

namespace Runner

open Batch

variable {β : Type} (builds : β → Build) (r : Runner)

/-- A batch at the end of a schedule. -/
def stateUnder (schedule : List Event) (c : Catalogue β) (filter : String → Bool)
    (w : Workspace β) : State β :=
  follow builds r (c.select filter) schedule (.initial (r.threads (c.select filter).length) w)

/-- What a runner is asked for, or what is done to its flag between that. -/
inductive Request (β : Type) where
  | one (c : Catalogue β) (name : String)
  | all (c : Catalogue β) (filter : String → Bool) (schedule : List Event)
  | signal (cancelled : Bool)

/-- Whether a request clears the flag, or somebody does while it is carried out. -/
def Request.Clears : Request β → Prop
  | .one .. => False
  | .all _ _ schedule => .signal false ∈ schedule
  | .signal cancelled => cancelled = false

/-- The workspace after a request. -/
def Request.perform (w : Workspace β) : Request β → Workspace β
  | .one c name => (r.runOne builds c name w).1
  | .all c filter schedule => (r.runAllUnder schedule builds c filter w).1
  | .signal cancelled => { w with cancelled }

/-- The workspace after requests, one after the other. -/
def session (requests : List (Request β)) (w : Workspace β) : Workspace β :=
  requests.foldl (Request.perform builds r) w

variable {builds r} {c : Catalogue β} {filter : String → Bool} {w : Workspace β}
  {schedule : List Event}

theorem threads_le (r : Runner) (fixtures : Nat) : r.threads fixtures ≤ r.workers := by
  rw [threads, workers]
  split <;> omega

theorem halting_under (set : w.cancelled = true) (kept : .signal false ∉ schedule) :
    Halting (State.initial (r.threads (c.select filter).length) w)
      (r.stateUnder builds schedule c filter w) := by
  have start : Accounts builds r (c.select filter) w.calls
      (.initial (r.threads (c.select filter).length) w) := accounts_initial _ w
  exact halting_follow start set kept

/-- No request clears the flag unless somebody means to. -/
theorem Request.cancelled_perform {request : Request β} (set : w.cancelled = true)
    (kept : ¬request.Clears) : (request.perform builds r w).cancelled = true := by
  cases request with
  | one c name =>
    rw [perform, runOne, runOneWith]
    cases c.get? name with
    | none => exact set
    | some f => simp [Fixture.generateWith, Fixture.buildModel, Fixture.call, set]
  | all c filter schedule => exact (halting_under set kept).flag
  | signal cancelled => exact Bool.not_eq_false _ ▸ kept

theorem cancelled_session {requests : List (Request β)} (set : w.cancelled = true)
    (kept : ∀ request ∈ requests, ¬request.Clears) :
    (r.session builds requests w).cancelled = true := by
  induction requests generalizing w with
  | nil => exact set
  | cons request rest ih =>
    obtain ⟨first, later⟩ := List.forall_mem_cons.1 kept
    exact ih (request.cancelled_perform set first) later

theorem inBlocks_under (few : r.jobs ≤ 1)
    (kept : ∀ before after, schedule = before ++ .signal false :: after →
      (r.stateUnder builds before c filter w).workspace.cancelled = false)
    (ends : r.endsUnder schedule builds c filter w) :
    InBlocks (r.runAllUnder schedule builds c filter w).2 := by
  have alone : r.threads (c.select filter).length = 1 := by
    rw [threads, workers, if_pos (.inl (by omega))]
  let s := State.initial (r.threads (c.select filter).length) w
  have lone : s.workers.length = 1 := by simp [s, State.initial, alone]
  have start : Accounts builds r (c.select filter) w.calls s := accounts_initial _ w
  have last : LastTaken s := by
    intro place member
    cases eq_idle_of_mem_initial member
  have blocks : Blocks s := by
    have none : s.refused = 0 := filterMap_pool_initial rfl _ w
    unfold Blocks
    rw [none]
    exact fun place member => absurd member (Multiset.notMem_zero place)
  exact (blocks_follow lone start last blocks kept).collect (r.manned schedule builds c filter w)
    (start.after schedule) ends

/-- Cancellation is safe and sticky, however the steps of the workers follow each other and whatever
the builders do. A batch whose flag is set in a state and not cleared since starts no further
fixture (`Halted`). A lone worker whose flag is not cleared once it is set refuses all fixtures
after the first that it refuses. And no request clears the flag by itself: until somebody does,
later batches refuse every fixture and leave the workspace as it is. -/
theorem cancellation_sticks (builds : β → Build) (r : Runner) :
    (∀ (c : Catalogue β) filter w before after,
      let accepted := c.fixtures.filter fun f => filter f.name
      let s := r.stateUnder builds before c filter w
      s.workspace.cancelled = true → .signal false ∉ after →
      (r.Fair accepted.length (before ++ after) →
        r.endsUnder (before ++ after) builds c filter w) ∧
      (r.endsUnder (before ++ after) builds c filter w →
        Halted builds r accepted w s (r.runAllUnder (before ++ after) builds c filter w))) ∧
    (∀ (c : Catalogue β) filter w, r.jobs ≤ 1 →
      InBlocks (r.runAll builds c filter w).2 ∧ ∀ schedule,
        (∀ before after, schedule = before ++ .signal false :: after →
          (r.stateUnder builds before c filter w).workspace.cancelled = false) →
        r.endsUnder schedule builds c filter w →
        InBlocks (r.runAllUnder schedule builds c filter w).2) ∧
    ∀ (requests : List (Request β)) w, w.cancelled = true →
      (∀ request ∈ requests, ¬request.Clears) →
      let w' := r.session builds requests w
      w'.cancelled = true ∧ ∀ (c : Catalogue β) filter,
        let accepted := c.fixtures.filter fun f => filter f.name
        let refusals := accepted.map fun f => (f.name, .cancelled)
        r.runAll builds c filter w' = (w', refusals) ∧ ∀ schedule, .signal false ∉ schedule →
          (r.runAllUnder schedule builds c filter w').1 = w' ∧
            (r.endsUnder schedule builds c filter w' →
              (r.runAllUnder schedule builds c filter w').2 = refusals) := by
  refine ⟨fun c filter w before after => ?_, fun c filter w few => ?_,
    fun requests w set kept => ?_⟩
  · intro accepted s set kept
    rw [show accepted = c.select filter from (c.select_eq filter).symm]
    refine ⟨endsUnder_of_fair _ builds r c filter w, fun ends => ?_⟩
    have split : follow builds r (c.select filter) (before ++ after)
        (.initial (r.threads (c.select filter).length) w) =
          follow builds r (c.select filter) after s := List.foldl_append
    rw [endsUnder, split] at ends
    have halted := halted_follow (s := s) (r.threads_pos _) (r.threads_le _) rfl set kept ends
    rwa [← split] at halted
  · refine ⟨?_, fun schedule kept ends => inBlocks_under few kept ends⟩
    rw [runAll_eq_runAllUnder]
    refine inBlocks_under few (fun before after split => ?_)
      (isDone_firstWorkerOnly (r.threads_pos _) w)
    have cleared : .signal false ∈ before ++ .signal false :: after := by simp
    exact absurd (split ▸ cleared) (not_mem_firstWorkerOnly _ _ false)
  · intro w'
    have set' : w'.cancelled = true := cancelled_session set kept
    refine ⟨set', fun c filter => ?_⟩
    intro accepted refusals
    have refused {schedule : List Event} (unset : .signal false ∉ schedule)
        (ends : r.endsUnder schedule builds c filter w') :
        (r.runAllUnder schedule builds c filter w').2 = refusals :=
      collect_of_cancelled set' unset (r.threads_pos _) ends
    refine ⟨?_, fun schedule unset => ⟨workspace_follow_of_cancelled set' unset, refused unset⟩⟩
    have silent := not_mem_firstWorkerOnly (r.threads (c.select filter).length)
      (c.select filter).length false
    rw [runAll_eq_runAllUnder]
    exact Prod.ext (workspace_follow_of_cancelled set' silent)
      (refused silent (isDone_firstWorkerOnly (r.threads_pos _) w'))

end Runner

/-- Two workers are past their checks when the builder that one of them calls sets the flag. -/
def Batch.untilCancelled : List Event :=
  [.step 0, .step 1, .step 0, .step 1, .step 1]

/-- What the workers do after that. -/
def Batch.onceCancelled : List Event :=
  [.step 1, .step 1, .step 0, .step 1, .step 1, .step 0, .step 0, .step 1, .step 0, .step 1]

/-- The fixture whose builder was not called is refused, and so is every fixture after that. -/
theorem Runner.cancellation_sticks_crashing :
    let r : Runner := { directory := "out", jobs := 2 }
    let lone : Runner := { r with jobs := 1 }
    let builds (built : Built) : Build := { result := built, cancels := built matches .error _ }
    let everything (_ : String) := true
    let w : Workspace Built := { tree := { entries := [(["out"], .directory)] } }
    let schedule := Batch.untilCancelled ++ Batch.onceCancelled
    let s := r.stateUnder builds Batch.untilCancelled .sample everything w
    let run := r.runAllUnder schedule builds .sample everything w
    let run' := lone.runAllUnder (Batch.steps 14) builds .sample everything w
    let later := r.session builds [.all .sample everything schedule, .one .sample "neg"] run.1
    let outcomes := [("acos", .written "out/acos.onnx"),
      ("broken", .failed (.crashed "broken" "broken")), ("neg", .cancelled)]
    (s.workspace.cancelled = true ∧ r.endsUnder schedule builds .sample everything w ∧
      Batch.Halted builds r Catalogue.sample.fixtures w s run ∧ run.2 = outcomes) ∧
    (lone.endsUnder (Batch.steps 14) builds .sample everything w ∧
      Batch.InBlocks run'.2 ∧ run'.2 = outcomes) ∧
    later.cancelled = true ∧ r.runAll builds .sample everything later =
      (later, [("acos", .cancelled), ("broken", .cancelled), ("neg", .cancelled)]) := by
  intro r lone builds everything w schedule s run run' later outcomes
  have sticks := cancellation_sticks builds r
  refine ⟨⟨by decide, by decide, (sticks.1 .sample everything w Batch.untilCancelled
    Batch.onceCancelled (by decide) (by decide)).2 (by decide), by decide⟩,
    ⟨by decide, ?_, by decide⟩, ?_⟩
  · refine ((cancellation_sticks builds lone).2.1 .sample everything w (by decide)).2
      (Batch.steps 14) (fun before after split => ?_) (by decide)
    have cleared : .signal false ∈ before ++ .signal false :: after := by simp
    exact absurd (split ▸ cleared) (by decide)
  · have requests : ∀ request ∈
        [Request.all .sample everything schedule, .one .sample "neg"], ¬request.Clears := by
      rintro request member
      rcases List.mem_cons.1 member with rfl | member
      · exact (by decide : .signal false ∉ schedule)
      · obtain rfl := List.mem_singleton.1 member
        exact not_false
    obtain ⟨set, batches⟩ := sticks.2.2 _ run.1 (by decide) requests
    exact ⟨set, (batches .sample everything).1⟩

end OnnxCorpus
