import OnnxCorpus.Corpus.Elementwise
import OnnxCorpus.Proofs.Batch.Progress
import OnnxCorpus.Proofs.Batch.Saves
import OnnxCorpus.Proofs.Files.Written

/-!
# Sessions

A session saves models, generates fixtures and runs batches, in any number of directories and in
any order; any step of any save may be made to fail. It keeps a log of the saves that succeeded,
and what is loaded afterwards is what the log has as saved last (`Session.loads_last`).
-/

namespace OnnxCorpus

variable {β : Type}

/-- The model of a fixture is what the builder of that fixture gave. -/
def Saved.Own (builds : β → Build) (s : Saved β) : Prop :=
  ∀ f, s.fixture? = some f → Batch.modelOf builds f = .ok s.model

/-- A tree that was made from another one by the saves of a log, which of fixtures are the fixtures'
own models. -/
structure Logs (builds : β → Build) (t : Tree) (log : List (Saved β)) (t' : Tree) : Prop where
  own : ∀ s ∈ log, s.Own builds
  wrote : t.Wrote log t'

theorem Logs.refl (builds : β → Build) (t : Tree) : Logs builds t [] t :=
  ⟨nofun, .refl t⟩

theorem Logs.append {builds : β → Build} {t t' t'' : Tree} {log log' : List (Saved β)}
    (first : Logs builds t log t') (later : Logs builds t' log' t'') :
    Logs builds t (log ++ log') t'' :=
  ⟨List.forall_mem_append.2 ⟨first.own, later.own⟩, first.wrote.append later.wrote⟩

namespace Fixture

/-- The log of the save of what was built for a fixture. -/
def log (versions : Versions) (directory : String) (f : Fixture β)
    (built : Except (Fault FixtureError) Model) (run : SaveRun (Fault FixtureError) String) :
    List (Saved β) :=
  match built with
  | .error _ => []
  | .ok model => run.log ⟨f.path directory, versions, model, some f⟩

variable (fault : Option SaveFault) (versions : Versions) (directory : String) (f : Fixture β)

theorem wrote_saveModelWith (built : Except (Fault FixtureError) Model) (t : Tree) :
    let run := f.saveModelWith fault versions directory built t
    t.Wrote (f.log versions directory built run) run.left := by
  cases built with
  | error cause => exact .refl t
  | ok model =>
    have wrote := Model.wrote_saveWith fault t
      (⟨f.path directory, versions, model, some f⟩ : Saved β)
    have same : (f.saveModelWith fault versions directory (.ok model) t).log
        (⟨f.path directory, versions, model, some f⟩ : Saved β) =
          (model.saveWith fault versions t (f.path directory)).log
            ⟨f.path directory, versions, model, some f⟩ := by
      unfold SaveRun.log saveModelWith
      cases result : (model.saveWith fault versions t (f.path directory)).result with
      | ok u => simp [result]
      | error e => simp [result]
    intro run
    show t.Wrote (run.log _) _
    rw [same]
    exact wrote

theorem own_of_mem_log (builds : β → Build) {run : SaveRun (Fault FixtureError) String}
    {s : Saved β} (member : s ∈ f.log versions directory (Batch.modelOf builds f) run) :
    s.Own builds := by
  intro g same
  unfold log at member
  split at member
  · cases member
  · next model built =>
    unfold SaveRun.log at member
    split at member
    · obtain rfl := List.mem_singleton.1 member
      obtain rfl := Option.some.inj same
      exact built
    · cases member

theorem logs_saveModelWith (builds : β → Build) (t : Tree) :
    let run := f.saveModelWith fault versions directory (Batch.modelOf builds f) t
    Logs builds t (f.log versions directory (Batch.modelOf builds f) run) run.left :=
  ⟨fun _ => own_of_mem_log versions directory f builds,
    wrote_saveModelWith fault versions directory f _ t⟩

end Fixture

/-! ### Batches with saves that fail -/

namespace Batch

/-- A save that a worker is about to make. -/
structure Pending (β : Type) where
  worker : Nat
  place : Nat
  fixture : Fixture β
  built : Except (Fault FixtureError) Model

/-- The save that an event makes, if it makes one. -/
def pending? (selected : List (Fixture β)) (s : State β) : Event → Option (Pending β)
  | .signal _ => none
  | .step worker =>
    match s.workers[worker]? with
    | some (.built place built) => selected[place]?.map fun f => ⟨worker, place, f, built⟩
    | _ => none

variable (builds : β → Build) (r : Runner) (selected : List (Fixture β))

/-- The batch after an event in which a step of a save may be made to fail, and the log of that. -/
def nextWith (fault : Option SaveFault) (s : State β) (event : Event) : State β × List (Saved β) :=
  match pending? selected s event with
  | none => (next builds r selected s event, [])
  | some p =>
    let run := p.fixture.saveModelWith fault r.versions r.directory p.built s.workspace.tree
    ({ s with
        workspace := { s.workspace with tree := run.left }
        workers := s.workers.set p.worker
          (.finished p.place (.ofResult p.fixture.name run.result)) },
      p.fixture.log r.versions r.directory p.built run)

/-- The batch after events in which steps of saves may be made to fail, and the log of that. -/
def followWith : List (Event × Option SaveFault) → State β → State β × List (Saved β)
  | [], s => (s, [])
  | (event, fault) :: rest, s =>
    let (s, log) := nextWith builds r selected fault s event
    let (s, later) := followWith rest s
    (s, log ++ later)

/-- What is built in a stage is what the builder of the fixture gave. -/
def Stage.Faithful (stage : Stage) : Prop :=
  match stage with
  | .built place result => ∀ f, selected[place]? = some f → result = modelOf builds f
  | .idle | .fetched _ | .cleared _ | .finished .. | .stopped => True

variable {builds r selected} {s : State β} {event : Event}

theorem exists_of_pending? {p : Pending β} (found : pending? selected s event = some p) :
    event = .step p.worker ∧ s.workers[p.worker]? = some (.built p.place p.built) ∧
      selected[p.place]? = some p.fixture := by
  cases event with
  | signal cancelled => cases found
  | step worker =>
    rw [pending?] at found
    split at found
    · next place built here =>
      obtain ⟨f, there, rfl⟩ := Option.map_eq_some_iff.1 found
      exact ⟨rfl, here, there⟩
    · cases found

/-- Where no save fails, the batch goes on as it does by itself. -/
theorem nextWith_none :
    (nextWith builds r selected none s event).1 = next builds r selected s event := by
  unfold nextWith
  split
  · rfl
  · next p found =>
    obtain ⟨rfl, here, there⟩ := exists_of_pending? found
    unfold next advance
    simp only [here, there]
    rfl

theorem followWith_none (schedule : List Event) (s : State β) :
    (followWith builds r selected (schedule.map (·, none)) s).1 =
      follow builds r selected schedule s := by
  induction schedule generalizing s with
  | nil => rfl
  | cons event rest ih =>
    show (followWith builds r selected _ (nextWith builds r selected none s event).1).1 = _
    rw [nextWith_none, ih]
    rfl

/-- A step that makes no save leaves the tree, and builds only what is the fixture's own. -/
theorem advance_of_unsaved {stage : Stage}
    (unsaved : ∀ place built, stage = .built place built → selected[place]? = none) :
    (advance builds r selected s stage).1.workspace.tree = s.workspace.tree ∧
      (advance builds r selected s stage).2.Faithful builds selected := by
  cases stage with
  | idle | fetched place =>
    refine ⟨rfl, ?_⟩
    rw [advance]
    split
    · trivial
    · trivial
  | cleared place =>
    cases found : selected[place]? with
    | none =>
      rw [advance, found]
      exact ⟨rfl, trivial⟩
    | some f =>
      rw [advance, found]
      refine ⟨rfl, ?_⟩
      intro g there
      obtain rfl := Option.some.inj (found.symm.trans there)
      rfl
  | built place built =>
    rw [advance, unsaved place built rfl]
    exact ⟨rfl, trivial⟩
  | finished place outcome | stopped => exact ⟨rfl, trivial⟩

/-- An event that makes no save leaves the tree, and builds only what is the fixture's own. -/
theorem next_of_unsaved (faithful : ∀ stage ∈ s.workers, stage.Faithful builds selected)
    (unsaved : pending? selected s event = none) :
    (next builds r selected s event).workspace.tree = s.workspace.tree ∧
      ∀ stage ∈ (next builds r selected s event).workers, stage.Faithful builds selected := by
  cases event with
  | signal cancelled => exact ⟨rfl, faithful⟩
  | step worker =>
    rw [next]
    cases here : s.workers[worker]? with
    | none => exact ⟨rfl, faithful⟩
    | some stage =>
      have vacant : ∀ place built, stage = .built place built → selected[place]? = none := by
        rintro place built rfl
        rw [pending?, here] at unsaved
        exact Option.map_eq_none_iff.1 unsaved
      obtain ⟨tree, fresh⟩ :
          (advance builds r selected s stage).1.workspace.tree = s.workspace.tree ∧
            (advance builds r selected s stage).2.Faithful builds selected :=
        advance_of_unsaved vacant
      refine ⟨tree, ?_⟩
      intro stage' member
      have after : stage' ∈ (advance builds r selected s stage).1.workers.set worker
          (advance builds r selected s stage).2 := member
      rw [workers_advance] at after
      rcases List.mem_or_eq_of_mem_set after with old | rfl
      · exact faithful stage' old
      · exact fresh

section

variable (r) (fault : Option SaveFault) (event : Event)
  (faithful : ∀ stage ∈ s.workers, stage.Faithful builds selected)

include faithful

theorem faithful_nextWith :
    ∀ stage ∈ (nextWith builds r selected fault s event).1.workers,
      stage.Faithful builds selected := by
  unfold nextWith
  cases found : pending? selected s event with
  | none => exact (next_of_unsaved faithful found).2
  | some p =>
    intro stage member
    rcases List.mem_or_eq_of_mem_set member with old | rfl
    · exact faithful stage old
    · trivial

theorem logs_nextWith :
    Logs builds s.workspace.tree (nextWith builds r selected fault s event).2
      (nextWith builds r selected fault s event).1.workspace.tree := by
  unfold nextWith
  cases found : pending? selected s event with
  | none =>
    show Logs builds s.workspace.tree [] (next builds r selected s event).workspace.tree
    rw [(next_of_unsaved faithful found).1]
    exact .refl builds _
  | some p =>
    obtain ⟨-, here, there⟩ := exists_of_pending? found
    have own : p.built = modelOf builds p.fixture :=
      faithful _ (List.mem_of_getElem? here) _ there
    have logs := p.fixture.logs_saveModelWith fault r.versions r.directory builds s.workspace.tree
    rwa [← own] at logs

/-- Events do to the tree what their log says. -/
theorem logs_followWith (schedule : List (Event × Option SaveFault)) :
    Logs builds s.workspace.tree (followWith builds r selected schedule s).2
      (followWith builds r selected schedule s).1.workspace.tree := by
  induction schedule generalizing s with
  | nil => exact .refl builds _
  | cons entry rest ih =>
    obtain ⟨event, fault⟩ := entry
    exact (logs_nextWith r fault event faithful).append
      (ih (faithful_nextWith r fault event faithful))

end

theorem faithful_initial (workers : Nat) (w : Workspace β) :
    ∀ stage ∈ (State.initial workers w).workers, stage.Faithful builds selected := by
  intro stage member
  rw [List.eq_of_mem_replicate member]
  trivial

end Batch

/-! ### Sessions -/

/-- What is done in a session: a model is saved, a fixture is generated, a runner generates the
fixture of a name or a batch, or the flag of a runner is set or cleared. A step of a save may be
made to fail. -/
inductive Action (β : Type) where
  | export (fault : Option SaveFault) (versions : Versions) (path : String) (m : Model)
  | generate (fault : Option SaveFault) (versions : Versions) (directory : String) (f : Fixture β)
  | one (fault : Option SaveFault) (r : Runner) (c : Catalogue β) (name : String)
  | all (r : Runner) (c : Catalogue β) (filter : String → Bool)
    (schedule : List (Batch.Event × Option SaveFault))
  | signal (cancelled : Bool)

namespace Action

variable (builds : β → Build)

/-- The workspace after an action, and the log of its saves. -/
def perform (w : Workspace β) : Action β → Workspace β × List (Saved β)
  | .export fault versions path m =>
    let run := m.saveWith fault versions w.tree path
    ({ w with tree := run.left }, run.log ⟨path, versions, m, none⟩)
  | .generate fault versions directory f =>
    let (w, run) := f.generateWith builds fault versions directory w
    (w, f.log versions directory (Batch.modelOf builds f) run)
  | .one fault r c name =>
    let (w, run) := r.runOneWith fault builds c name w
    (w, match c.get? name with
      | none => []
      | some f => f.log r.versions r.directory (Batch.modelOf builds f) run)
  | .all r c filter schedule =>
    let selected := c.select filter
    let (s, log) := Batch.followWith builds r selected schedule
      (.initial (r.threads selected.length) w)
    (s.workspace, log)
  | .signal cancelled => ({ w with cancelled }, [])

/-- A batch in which no save is made to fail and nobody touches the flag. -/
def runAll (r : Runner) (c : Catalogue β) (filter : String → Bool) : Action β :=
  let fixtures := (c.select filter).length
  .all r c filter ((Batch.firstWorkerOnly (r.threads fixtures) fixtures).map (·, none))

theorem perform_runAll (r : Runner) (c : Catalogue β) (filter : String → Bool) (w : Workspace β) :
    ((runAll r c filter).perform builds w).1 = (r.runAll builds c filter w).1 := by
  rw [Runner.runAll_eq_runAllUnder]
  unfold perform runAll
  show (Batch.followWith _ _ _ _ _).1.workspace = _
  rw [Batch.followWith_none]
  rfl

variable {builds}

theorem logs_perform (a : Action β) (w : Workspace β) :
    Logs builds w.tree (a.perform builds w).2 (a.perform builds w).1.tree := by
  cases a with
  | «export» fault versions path m =>
    refine ⟨?_, Model.wrote_saveWith fault w.tree ⟨path, versions, m, none⟩⟩
    intro s member f same
    rw [perform, SaveRun.log] at member
    split at member
    · rw [List.mem_singleton.1 member] at same
      cases same
    · cases member
  | generate fault versions directory f =>
    exact f.logs_saveModelWith fault versions directory builds w.tree
  | one fault r c name =>
    rw [perform, Runner.runOneWith]
    cases c.get? name with
    | none => exact .refl builds _
    | some f => exact f.logs_saveModelWith fault r.versions r.directory builds w.tree
  | all r c filter schedule =>
    exact Batch.logs_followWith r (Batch.faithful_initial _ w) schedule
  | signal cancelled => exact .refl builds _

end Action

namespace Session

variable (builds : β → Build)

/-- The workspace after actions, one after the other, and the log of their saves. -/
def run : List (Action β) → Workspace β → Workspace β × List (Saved β)
  | [], w => (w, [])
  | a :: rest, w =>
    let (w, log) := a.perform builds w
    let (w, later) := run rest w
    (w, log ++ later)

theorem logs_run (actions : List (Action β)) (w : Workspace β) :
    Logs builds w.tree (run builds actions w).2 (run builds actions w).1.tree := by
  induction actions generalizing w with
  | nil => exact .refl builds _
  | cons a rest ih => exact (a.logs_perform w).append (ih (a.perform builds w).1)

/-- Whatever is done in a session, from whatever files, and whichever saves fail: where a save
succeeded, what is loaded is what its file is read as, of the last such save. Of a fixture that is
the model of its name with the pieces that its builder gave, if they come back from a file at all.
And where no save succeeded, everything is as it was at the start. -/
theorem loads_last (actions : List (Action β)) (w : Workspace β) :
    let t := w.tree
    let t' := (run builds actions w).1.tree
    let log := (run builds actions w).2
    (∀ path place, t.locate path = .ok place ↔ t'.locate path = .ok place) ∧
    (∀ s ∈ log, ∃ place, t.locate s.path = .ok place) ∧
    (∀ place s, t.lastAt place log = some s →
      ∃ bytes, s.model.encode s.versions = .ok bytes ∧ ∀ path, t'.locate path = .ok place →
        Model.load t' path = (Model.decode bytes).mapError (Fault.map .decode) ∧
        ∀ f, s.fixture? = some f → ∃ parts, (builds f.builder).result = .ok parts ∧
          s.model = ⟨parts.toGraph f.name, f.name⟩ ∧
          (s.model.graph.Everywhere Graph.IsFormed → s.model.graph.NestsWithin 31 →
            s.model.graph.Everywhere Graph.Fits → bytes.length < UInt64.size →
            Model.load t' path = .ok ⟨⟨f.name, parts.nodes, parts.inputs, parts.outputs,
              parts.initializers⟩, f.name⟩)) ∧
    (∀ place, t.lastAt place log = none → t'.entry? place = t.entry? place) ∧
    ∀ (r : Runner) (c : Catalogue β) filter w,
      ((Action.runAll r c filter).perform builds w).1 = (r.runAll builds c filter w).1 := by
  intro t t' log
  have logs : Logs builds t log t' := logs_run builds actions w
  refine ⟨fun path place => logs.wrote.same.locate_eq_ok_iff, logs.wrote.leads, ?_,
    logs.wrote.kept, Action.perform_runAll builds⟩
  intro place s last
  obtain ⟨bytes, encoded, loads⟩ := logs.wrote.load_eq last
  refine ⟨bytes, encoded, ?_⟩
  intro path found
  refine ⟨loads path found, ?_⟩
  intro f same
  have own := logs.own s (Tree.mem_of_lastAt last) f same
  unfold Batch.modelOf Fixture.toModel at own
  split at own
  · next parts given =>
    have model : s.model = ⟨parts.toGraph f.name, f.name⟩ := (Except.ok.inj own).symm
    refine ⟨parts, given, model, ?_⟩
    intro formed shallow fits addressable
    rw [loads path found, (Model.decode_encode_iff formed shallow addressable encoded).2 fits, model]
    rfl
  · cases own

/-- Builders of two fixtures, and one that crashes. -/
def builders : Nat → Build
  | 0 => { result := Corpus.acos }
  | 1 => { result := .error (.crash "broken") }
  | _ => { result := Corpus.neg }

/-- A fixture is generated, and again with a save that fails; a builder crashes; and a batch is
run. -/
def mixed : List (Action Nat) :=
  let r : Runner := { directory := "out" }
  let c : Catalogue Nat := ⟨[⟨"broken", 1⟩, ⟨"neg", 2⟩]⟩
  [.generate none {} "out" ⟨"acos", 0⟩, .generate (some (.rename .busy)) {} "out" ⟨"acos", 0⟩,
    .one none r c "broken", .runAll r c fun _ => true]

/-- A workspace with one directory. -/
def fresh : Workspace Nat := { tree := { entries := [(["out"], .directory)] } }

theorem loads_last_mixed :
    (run builders mixed fresh).2.map (·.path) = ["out/acos.onnx", "out/neg.onnx"] ∧
      ∃ parts, Corpus.acos = .ok parts ∧
        Model.load (run builders mixed fresh).1.tree "out/acos.onnx" = .ok ⟨⟨"acos", parts.nodes,
          parts.inputs, parts.outputs, parts.initializers⟩, "acos"⟩ := by
  refine ⟨by decide +kernel, ?_⟩
  obtain ⟨same, -, loads, -⟩ := loads_last builders mixed fresh
  have found : fresh.tree.locate "out/acos.onnx" = .ok ["out", "acos.onnx"] := by decide +kernel
  have last : (fresh.tree.lastAt ["out", "acos.onnx"] (run builders mixed fresh).2).map
      (fun s => (s.fixture?, s.versions)) = some (some ⟨"acos", 0⟩, {}) := by decide +kernel
  obtain ⟨s, last, entered⟩ := Option.map_eq_some_iff.1 last
  obtain ⟨fixture, versions⟩ := Prod.mk.inj entered
  obtain ⟨bytes, encoded, loaded⟩ := loads _ s last
  obtain ⟨parts, given, model, loaded⟩ := (loaded "out/acos.onnx" ((same _ _).1 found)).2 _ fixture
  obtain rfl : _ = parts := Except.ok.inj given
  have short : (s.model.encode s.versions).toOption.all fun bytes => bytes.length < 1000 := by
    rw [model, versions]
    decide +kernel
  rw [encoded] at short
  have domain : s.model.graph.Everywhere Graph.IsFormed ∧ s.model.graph.NestsWithin 31 ∧
      s.model.graph.Everywhere Graph.Fits := by
    rw [model]
    decide +kernel
  obtain ⟨formed, shallow, fits⟩ := domain
  refine ⟨_, rfl, loaded formed shallow fits ?_⟩
  exact Nat.lt_trans (of_decide_eq_true short) (by decide)

end Session

end OnnxCorpus
