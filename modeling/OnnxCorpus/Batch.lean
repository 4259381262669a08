import OnnxCorpus.Workspace

/-!
# Batches

A batch generates every fixture that a filter accepts and gives one outcome for each, in the order
of registration. Nothing that befalls a fixture stops the batch, crashes of builders included; a
fixture that finds the cancel flag set is not started.

With several workers, each takes the next fixture from a shared cursor, looks at the flag, builds,
saves and sends its outcome with the place it belongs to. A schedule says who takes the next step,
and when the flag is set or cleared meanwhile; the outcomes are put back in order at the end,
whatever the schedule. A caller that generates the fixtures itself takes the steps of a lone worker.
-/

namespace OnnxCorpus

/-- What became of a fixture in a batch. -/
inductive Outcome where
  | written (path : String)
  | failed (cause : FixtureError)
  | cancelled
deriving DecidableEq

namespace Outcome

/-- Whether a fixture was written. -/
def isWritten : Outcome → Bool
  | written _ => true
  | failed _ | cancelled => false

/-- The outcome of a fixture that was started. A crash is a failure like others. -/
def ofResult (name : String) : Except (Fault FixtureError) String → Outcome
  | .ok path => written path
  | .error (.error cause) => failed cause
  | .error (.crash text) => failed (.crashed name text)

end Outcome

namespace Batch

variable {β : Type} (builds : β → Build) (r : Runner)

/-- Generates a fixture, unless the flag is set. -/
def attempt (f : Fixture β) (w : Workspace β) : Workspace β × Outcome :=
  if w.cancelled then (w, .cancelled)
  else
    let (w, result) := f.generate builds r.versions r.directory w
    (w, .ofResult f.name result)

/-- Generates fixtures one after the other. -/
def inOrder : List (Fixture β) → Workspace β → Workspace β × List (String × Outcome)
  | [], w => (w, [])
  | f :: rest, w =>
    let (w, outcome) := attempt builds r f w
    let (w, outcomes) := inOrder rest w
    (w, (f.name, outcome) :: outcomes)

/-! ### Workers -/

/-- Where a worker is: between fixtures, with the fixture at a place of the batch, past its check
of the flag, after building, after saving, or at the end. -/
inductive Stage where
  | idle
  | fetched (place : Nat)
  | cleared (place : Nat)
  | built (place : Nat) (result : Except (Fault FixtureError) Model)
  | finished (place : Nat) (outcome : Outcome)
  | stopped

/-- A batch under way: the next place to take, the workers, the outcomes sent so far with their
places, and the workspace. -/
structure State (β : Type) where
  cursor : Nat
  workers : List Stage
  sent : List (Nat × Outcome)
  workspace : Workspace β

/-- A batch before its first step. -/
def State.initial (workers : Nat) (w : Workspace β) : State β :=
  ⟨0, List.replicate workers .idle, [], w⟩

/-- What happens next: a worker takes a step, or the flag is set or cleared, from outside or by a
builder while it runs. -/
inductive Event where
  | step (worker : Nat)
  | signal (cancelled : Bool)
deriving DecidableEq

/-- The step of a worker at a stage: what it does to the batch, and the stage after it. -/
def advance (selected : List (Fixture β)) (s : State β) : Stage → State β × Stage
  | .idle =>
    ({ s with cursor := s.cursor + 1 },
      if s.cursor < selected.length then .fetched s.cursor else .stopped)
  | .fetched place =>
    (s, if s.workspace.cancelled then .finished place .cancelled else .cleared place)
  | .cleared place =>
    match selected[place]? with
    | none => (s, .stopped)
    | some f =>
      let (w, result) := f.buildModel builds s.workspace
      ({ s with workspace := w }, .built place result)
  | .built place result =>
    match selected[place]? with
    | none => (s, .stopped)
    | some f =>
      let (tree, result) := f.saveModel r.versions r.directory result s.workspace.tree
      ({ s with workspace := { s.workspace with tree } },
        .finished place (.ofResult f.name result))
  | .finished place outcome => ({ s with sent := s.sent ++ [(place, outcome)] }, .idle)
  | .stopped => (s, .stopped)

/-- The batch after an event. -/
def next (selected : List (Fixture β)) (s : State β) : Event → State β
  | .signal cancelled => { s with workspace := { s.workspace with cancelled } }
  | .step worker =>
    match s.workers[worker]? with
    | none => s
    | some stage =>
      let (s, stage) := advance builds r selected s stage
      { s with workers := s.workers.set worker stage }

/-- The batch after the events of a schedule. -/
def follow (selected : List (Fixture β)) (schedule : List Event) (s : State β) : State β :=
  schedule.foldl (next builds r selected) s

omit builds r in
/-- Whether every worker has stopped. -/
def State.isDone (s : State β) : Bool := s.workers.all fun stage => stage matches .stopped

omit builds r in
/-- The outcomes that were sent, each at its place. -/
def State.collect (selected : List (Fixture β)) (s : State β) : List (String × Outcome) :=
  (List.range selected.length).filterMap fun place =>
    match selected[place]?, (s.sent.reverse.find? (·.1 = place)) with
    | some f, some (_, outcome) => some (f.name, outcome)
    | _, _ => none

omit builds r in
/-- A schedule that ends every batch: the first worker does all the work. -/
def firstWorkerOnly (workers fixtures : Nat) : List Event :=
  List.replicate (5 * fixtures + 1) (.step 0) ++ (List.range workers).map .step

/-- Generates fixtures with several workers under a schedule. -/
def withWorkers (workers : Nat) (schedule : List Event) (selected : List (Fixture β))
    (w : Workspace β) : Workspace β × List (String × Outcome) :=
  let s := follow builds r selected schedule (.initial workers w)
  (s.workspace, s.collect selected)

end Batch

/-- The number of workers of a runner, at least one. -/
def Runner.workers (r : Runner) : Nat := max 1 r.jobs

namespace Catalogue

variable {β : Type} (c : Catalogue β) (filter : String → Bool)

/-- The fixtures that a filter accepts. -/
def select : List (Fixture β) := c.fixtures.filter fun f => filter f.name

/-- What is selected are the fixtures whose names the filter accepts, in the order of
registration. -/
theorem select_eq : c.select filter = c.fixtures.filter fun f => filter f.name := rfl

variable {c filter}

theorem mem_select_iff {f : Fixture β} :
    f ∈ c.select filter ↔ f ∈ c.fixtures ∧ filter f.name = true := List.mem_filter

theorem select_sublist : (c.select filter).Sublist c.fixtures := List.filter_sublist

end Catalogue

/-- The number of workers that take the steps of a batch: no more than there are fixtures, and one
where the caller does the work. -/
def Runner.threads (r : Runner) (fixtures : Nat) : Nat :=
  if r.workers ≤ 1 ∨ fixtures ≤ 1 then 1 else min r.workers fixtures

/-- Generates every fixture that a filter accepts, the steps being taken as the schedule says. -/
def Runner.runAllUnder {β : Type} (schedule : List Batch.Event) (builds : β → Build) (r : Runner)
    (c : Catalogue β) (filter : String → Bool) (w : Workspace β) :
    Workspace β × List (String × Outcome) :=
  let selected := c.select filter
  Batch.withWorkers builds r (r.threads selected.length) schedule selected w

/-- Generates every fixture that a filter accepts: one after the other, or with several workers. -/
def Runner.runAll {β : Type} (builds : β → Build) (r : Runner) (c : Catalogue β)
    (filter : String → Bool) (w : Workspace β) : Workspace β × List (String × Outcome) :=
  let selected := c.select filter
  if r.workers ≤ 1 ∨ selected.length ≤ 1 then Batch.inOrder builds r selected w
  else
    let workers := min r.workers selected.length
    Batch.withWorkers builds r workers (Batch.firstWorkerOnly workers selected.length) selected w

end OnnxCorpus
