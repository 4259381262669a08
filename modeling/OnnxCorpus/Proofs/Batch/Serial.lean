import OnnxCorpus.Proofs.Batch.Accounts
import Mathlib.Algebra.Order.Group.Multiset

/-!
# The saves of a batch, one after the other

Whatever the schedule and whoever sets or clears the flag, a batch does from any moment on what the
saves of some of its fixtures do one after the other: they leave its tree, and each of them has the
outcome that it has after those before it (`Serial`, kept by every event). Until a batch has ended,
its fixtures past their check of the flag are those that were saved and those under way
(`started_eq`).
-/

namespace OnnxCorpus.Batch

variable {β : Type}

/-- The fixtures at places. -/
def fixturesAt (selected : List (Fixture β)) (places : List Nat) : List (Fixture β) :=
  places.filterMap (selected[·]?)

/-- The builders of the fixtures at places. -/
def buildersAt (selected : List (Fixture β)) (places : Multiset Nat) : Multiset β :=
  places.filterMap fun place => selected[place]?.map (·.builder)

/-- The outcome of a fixture that is generated in a tree. -/
def outcomeIn (builds : β → Build) (r : Runner) (t : Tree) (f : Fixture β) : Outcome :=
  .ofResult f.name (saveOf builds r f t).2

/-! ### Past the check of the flag -/

namespace Stage

/-- The place of a fixture past its check. -/
def started? : Stage → Option Nat
  | .cleared place | .built place _ => some place
  | .finished place outcome => if outcome = .cancelled then none else some place
  | .idle | .fetched _ | .stopped => none

/-- The place of a fixture past its check that is still to be built. -/
def cleared? : Stage → Option Nat
  | .cleared place => some place
  | .idle | .fetched _ | .built .. | .finished .. | .stopped => none

/-- The place of a fixture past its check that is still to be saved. -/
def underway? : Stage → Option Nat
  | .cleared place | .built place _ => some place
  | .idle | .fetched _ | .finished .. | .stopped => none

/-- The place of a fixture past its check whose save is over. -/
def saved? : Stage → Option Nat
  | .finished place outcome => if outcome = .cancelled then none else some place
  | .idle | .fetched _ | .cleared _ | .built .. | .stopped => none

end Stage

namespace State

/-- The places of the fixtures past their check. -/
def started (s : State β) : Multiset Nat := s.pool.filterMap Stage.started?

/-- The places of the fixtures past their check that are still to be built. -/
def cleared (s : State β) : Multiset Nat := s.pool.filterMap Stage.cleared?

/-- The places of the fixtures past their check that are still to be saved. -/
def underway (s : State β) : Multiset Nat := s.pool.filterMap Stage.underway?

/-- The places of the fixtures past their check whose saves are over. -/
def saved (s : State β) : Multiset Nat := s.pool.filterMap Stage.saved?

end State

/-- A value of each stage of a pool that comes from one function or from another one. -/
theorem filterMap_eq_add {γ : Type} {f g h : Stage → Option γ}
    (split : ∀ stage, (f stage = none ∧ h stage = g stage) ∨ (g stage = none ∧ h stage = f stage))
    (pool : Multiset Stage) : pool.filterMap h = pool.filterMap f + pool.filterMap g := by
  have each (stage : Stage) :
      ((h stage).toList : Multiset γ) = (f stage).toList + (g stage).toList := by
    rcases split stage with ⟨none, same⟩ | ⟨none, same⟩ <;> simp [none, same]
  have apart {k : Stage → Option γ} (stage : Stage) (pool : Multiset Stage) :
      (stage ::ₘ pool).filterMap k = (k stage).toList + pool.filterMap k := by
    cases value : k stage with
    | none => rw [Multiset.filterMap_cons_none _ _ value]; simp
    | some c => rw [Multiset.filterMap_cons_some _ _ _ value]; simp
  induction pool using Multiset.induction_on with
  | empty => rfl
  | cons stage pool ih =>
    rw [apart, apart, apart, each, ih]
    exact add_add_add_comm _ _ _ _

theorem started_eq (s : State β) : s.started = s.underway + s.saved := by
  refine filterMap_eq_add (fun stage => ?_) s.pool
  cases stage <;> simp [Stage.started?, Stage.underway?, Stage.saved?]

/-- The builders to be called for the fixtures past their check are those that were called and those
that are not called yet. -/
theorem filterMap_called_add (selected : List (Fixture β)) (s : State β) :
    buildersAt selected s.started =
      s.pool.filterMap (Stage.called? selected) + buildersAt selected s.cleared := by
  unfold buildersAt State.started State.cleared
  rw [Multiset.filterMap_filterMap, Multiset.filterMap_filterMap]
  refine filterMap_eq_add (fun stage => ?_) s.pool
  cases stage with
  | finished place outcome =>
    by_cases refused : outcome = .cancelled <;>
      simp [Stage.started?, Stage.called?, Stage.cleared?, refused]
  | idle | fetched | cleared | built | stopped =>
    simp [Stage.started?, Stage.called?, Stage.cleared?]

/-! ### One save after another -/

variable (builds : β → Build) (r : Runner) (selected : List (Fixture β))

/-- A stage that is finished since a state `s₀` has the outcome of its save after those before it
in an order. -/
def Stage.SerialIn (s₀ : State β) (order : List Nat) (stage : Stage) : Prop :=
  match stage with
  | .finished place outcome => outcome = .cancelled ∨ .finished place outcome ∈ s₀.pool ∨
      ∃ before, before ++ [place] <+: order ∧ ∀ f, selected[place]? = some f →
        outcome = outcomeIn builds r
          (saveAll builds r (fixturesAt selected before) s₀.workspace.tree) f
  | .idle | .fetched _ | .cleared _ | .built .. | .stopped => True

/-- From a state `s₀` to a state `s`, a batch did what the saves of the fixtures at some places do,
one after the other. -/
structure Serial (s₀ s : State β) (order : List Nat) : Prop where
  saved : s.saved = order + s₀.saved
  tree : s.workspace.tree = saveAll builds r (fixturesAt selected order) s₀.workspace.tree
  outcomes : ∀ stage ∈ s.pool, stage.SerialIn builds r selected s₀ order
  finished : ∀ place outcome, .finished place outcome ∈ s₀.pool → .finished place outcome ∈ s.pool

variable {builds r selected} {calls : List β} {event : Event} {s₀ s s' : State β}
  {order : List Nat}

theorem Serial.refl (s : State β) : Serial builds r selected s s [] where
  saved := by simp
  tree := rfl
  outcomes stage member := by
    cases stage with
    | finished place outcome => exact .inr (.inl member)
    | idle | fetched | cleared | built | stopped => trivial
  finished _ _ member := member

theorem Stage.SerialIn.mono {order' : List Nat} {stage : Stage} (longer : order <+: order')
    (serial : stage.SerialIn builds r selected s₀ order) :
    stage.SerialIn builds r selected s₀ order' := by
  cases stage with
  | finished place outcome =>
    rcases serial with refused | already | ⟨before, early, since⟩
    · exact .inl refused
    · exact .inr (.inl already)
    · exact .inr (.inr ⟨before, early.trans longer, since⟩)
  | idle | fetched | cleared | built | stopped => trivial

theorem Replaces.mem_of_ne {before after : Multiset Stage} {old new stage : Stage}
    (h : Replaces before after old new) (member : stage ∈ before) (other : stage ≠ old) :
    stage ∈ after := by
  obtain ⟨others, rfl, rfl⟩ := h
  exact Multiset.mem_cons_of_mem ((Multiset.mem_cons.1 member).resolve_left other)

/-- The worker that sends an outcome is idle again, and the outcome stays in the pool. -/
theorem filterMap_send {γ : Type} {f : Stage → Option γ} (none : f .idle = none)
    (moved : s'.pool = .idle ::ₘ s.pool) : s'.pool.filterMap f = s.pool.filterMap f := by
  rw [moved, Multiset.filterMap_cons_none _ _ none]

/-- A move that neither saves a fixture nor touches the tree. -/
theorem Serial.replaces {old new : Stage} (serial : Serial builds r selected s₀ s order)
    (moved : Replaces s.pool s'.pool old new) (unsaved : old.saved? = none ∧ new.saved? = none)
    (unfinished : ∀ place outcome, old ≠ .finished place outcome)
    (fresh : new.SerialIn builds r selected s₀ order)
    (tree : s'.workspace.tree = s.workspace.tree) : Serial builds r selected s₀ s' order where
  saved := by
    rw [← serial.saved]
    exact moved.filterMap_eq (unsaved.2.trans unsaved.1.symm)
  tree := tree.trans serial.tree
  outcomes := moved.forall serial.outcomes fresh
  finished place outcome member :=
    moved.mem_of_ne (serial.finished place outcome member) (unfinished place outcome).symm

/-- Every event continues the order of the saves, by one save or by none. -/
theorem Serial.moves (serial : Serial builds r selected s₀ s order)
    (accounts : Accounts builds r selected calls s) (moves : Moves builds r selected event s s') :
    ∃ order', Serial builds r selected s₀ s' order' := by
  cases moves with
  | fetch more moved cursor workspace | stop past moved cursor workspace
  | clear place flag moved cursor workspace =>
    exact ⟨order, serial.replaces moved ⟨rfl, rfl⟩ nofun trivial (by rw [workspace])⟩
  | refuse place flag moved cursor workspace =>
    exact ⟨order, serial.replaces moved ⟨rfl, rfl⟩ nofun (.inl rfl) (by rw [workspace])⟩
  | build place f found moved cursor workspace =>
    exact ⟨order, serial.replaces moved ⟨rfl, rfl⟩ nofun trivial (by rw [workspace]; rfl)⟩
  | save place f found built moved cursor workspace =>
    -- What was built is what the builder of the fixture gives, so this is one more save.
    obtain rfl := accounts.owned _ moved.mem_old f found
    have later : fixturesAt selected (order ++ [place]) = fixturesAt selected order ++ [f] := by
      simp [fixturesAt, found]
    refine ⟨order ++ [place], ?_, ?_, ?_, ?_⟩
    · have one := moved.filterMap_cons (f := Stage.saved?) rfl (if_neg ofResult_ne_cancelled)
      show s'.pool.filterMap Stage.saved? = _
      rw [one, ← Multiset.coe_add, add_assoc, add_left_comm, ← serial.saved]
      rfl
    · rw [workspace, later, saveAll_concat, ← serial.tree]
      rfl
    · refine moved.forall (fun stage member => ?_) (.inr (.inr ⟨order, List.prefix_rfl, ?_⟩))
      · exact (serial.outcomes stage member).mono (List.prefix_append order [place])
      · intro g here
        obtain rfl := Option.some.inj (found.symm.trans here)
        rw [← serial.tree]
        rfl
    · exact fun p outcome member => moved.mem_of_ne (serial.finished p outcome member) nofun
  | send moved cursor workspace =>
    exact ⟨order, {
      saved := (filterMap_send rfl moved).trans serial.saved
      tree := by rw [workspace, serial.tree]
      outcomes := moved ▸ Multiset.forall_mem_cons.2 ⟨trivial, serial.outcomes⟩
      finished := fun place outcome member =>
        moved ▸ Multiset.mem_cons_of_mem (serial.finished place outcome member) }⟩
  | signal cancelled sent moved cursor workspace =>
    exact ⟨order, {
      saved := (congrArg (Multiset.filterMap _) moved).trans serial.saved
      tree := by rw [workspace, ← serial.tree]
      outcomes := moved ▸ serial.outcomes
      finished := moved ▸ serial.finished }⟩
  | rest same => exact ⟨order, same ▸ serial⟩

/-- From a state on that its accounts fit, a batch does some saves one after the other. -/
theorem serial_follow (schedule : List Event) (accounts : Accounts builds r selected calls s) :
    ∃ order, Serial builds r selected s (follow builds r selected schedule s) order := by
  refine (follow_induction (P := fun s' => Accounts builds r selected calls s' ∧
    ∃ order, Serial builds r selected s s' order) (fun s' event _ both => ?_)
    ⟨accounts, [], .refl s⟩).2
  obtain ⟨accounts, order, serial⟩ := both
  have moves : Moves builds r selected event s' _ := moves_next event accounts.place_lt
  exact ⟨accounts.moves moves, serial.moves accounts moves⟩

end OnnxCorpus.Batch
