import OnnxCorpus.Proofs.Batch.Parallel

/-!
# A batch as the sum of its parts

With the flag clear, a batch of fixtures whose names hold no slash does for each of them what
generating it alone does (`EachAlone`): it gives the same outcome, crashes being recorded in place
of ending the run, and leaves the same bytes in its file. So what the other fixtures are, and
whether they fail, does not matter.
-/

namespace OnnxCorpus

namespace Batch

variable {β : Type} {builds : β → Build} {r : Runner} {fixtures : List (Fixture β)}
  {f : Fixture β} {t : Tree}

/-- What a batch came to for a fixture is what generating it alone came to. -/
structure AsAlone (target name : String)
    (alone : Workspace β × Except (Fault FixtureError) String)
    (run : Workspace β × List (String × Outcome)) : Prop where
  written : ∀ path, (name, .written path) ∈ run.2 ↔ alone.2 = .ok path
  failed : ∀ cause, (∀ name text, cause ≠ .crashed name text) →
    ((name, .failed cause) ∈ run.2 ↔ alone.2 = .error (.error cause))
  crashed : ∀ name' text, (name, .failed (.crashed name' text)) ∈ run.2 ↔
    name' = name ∧ alone.2 = .error (.crash text)
  file : run.1.tree.read target = alone.1.tree.read target

/-- A batch is the sum of its parts: it has an outcome for every registered fixture that the filter
accepts, and came for each of them to what generating it alone in the same workspace comes to. -/
structure EachAlone (builds : β → Build) (r : Runner) (c : Catalogue β) (filter : String → Bool)
    (w : Workspace β) (run : Workspace β × List (String × Outcome)) : Prop where
  names : run.2.map (·.1) = (c.fixtures.filter fun f => filter f.name).map (·.name)
  each : ∀ f ∈ c.fixtures, filter f.name = true →
    AsAlone (f.path r.directory) f.name (r.runOne builds c f.name w) run

/-- The errors that fixtures end with are not those that crashes are recorded as. -/
theorem saveOf_ne_crashed {name text : String} :
    (saveOf builds r f t).2 ≠ .error (.error (.crashed name text)) := by
  unfold saveOf modelOf Fixture.toModel
  rcases (builds f.builder).result with (_ | _) | parts
  · simp [Fixture.saveModel, Fixture.saveModelWith, Fault.map]
  · simp [Fixture.saveModel, Fixture.saveModelWith, Fault.map]
  · simp only [Fixture.saveModel, Fixture.saveModelWith]
    split <;> simp

theorem ofResult_eq_written_iff {name path : String}
    {result : Except (Fault FixtureError) String} :
    Outcome.ofResult name result = .written path ↔ result = .ok path := by
  rcases result with (_ | _) | _ <;> simp [Outcome.ofResult]

theorem ofResult_eq_failed_iff {name : String} {cause : FixtureError}
    {result : Except (Fault FixtureError) String} :
    Outcome.ofResult name result = .failed cause ↔
      result = .error (.error cause) ∨ ∃ text, cause = .crashed name text ∧
        result = .error (.crash text) := by
  rcases result with (_ | _) | _ <;> simp [Outcome.ofResult, eq_comm]

/-- The file of a fixture holds what its own save left there, whatever else was saved. -/
theorem read_saveAll_of_mem (separate : Separate fixtures) (member : f ∈ fixtures) :
    (saveAll builds r fixtures t).read (f.path r.directory) =
      (saveOf builds r f t).1.read (f.path r.directory) := by
  obtain ⟨before, after, rfl⟩ := List.append_of_mem member
  have first : (before ++ f :: after).Perm (f :: (before ++ after)) := List.perm_middle
  have distinct := ((first.map (·.name)).nodup_iff.1 separate.distinct)
  rw [List.map_cons, List.nodup_cons] at distinct
  have others : ∀ g ∈ before ++ after, g.Plain ∧ f.name ≠ g.name := by
    intro g among
    refine ⟨separate.plain g (first.mem_iff.2 (List.mem_cons_of_mem f among)), fun same => ?_⟩
    exact distinct.1 (List.mem_map.2 ⟨g, among, same.symm⟩)
  rw [(saveAll_perm first separate.plain separate.distinct).read_eq]
  exact read_saveAll (separate.plain f member) others

theorem mem_map_outcomeIn_iff (distinct : (fixtures.map (·.name)).Nodup) (member : f ∈ fixtures)
    {outcome : Outcome} :
    (f.name, outcome) ∈ fixtures.map (fun f => (f.name, outcomeIn builds r t f)) ↔
      outcomeIn builds r t f = outcome := by
  rw [List.mem_map]
  constructor
  · rintro ⟨g, among, same⟩
    obtain ⟨named, rfl⟩ := Prod.mk.inj same
    rw [List.inj_on_of_nodup_map distinct among member named]
  · rintro rfl
    exact ⟨f, member, rfl⟩

end Batch

namespace Runner

open Batch

variable {β : Type} {builds : β → Build} {r : Runner} {c : Catalogue β}
  {filter : String → Bool} {w : Workspace β}

theorem runOne_eq (registered : c.Registered) {f : Fixture β} (member : f ∈ c.fixtures) :
    (r.runOne builds c f.name w).2 = (saveOf builds r f w.tree).2 ∧
      (r.runOne builds c f.name w).1.tree = (saveOf builds r f w.tree).1 := by
  rw [runOne, runOneWith, registered.get?_eq_some member]
  exact ⟨rfl, rfl⟩

theorem eachAlone_of_outcomes (registered : c.Registered) (plain : ∀ f ∈ c.fixtures, f.Plain)
    {run : Workspace β × List (String × Outcome)}
    (outcomes : run.2 = (c.select filter).map fun f => (f.name, outcomeIn builds r w.tree f))
    (tree : Tree.Alike run.1.tree (saveAll builds r (c.select filter) w.tree)) :
    EachAlone builds r c filter w run := by
  have separate : Separate (c.select filter) := separate_select registered plain
  refine ⟨by simp [outcomes, c.select_eq], fun f known accepted => ?_⟩
  have member : f ∈ c.select filter := Catalogue.mem_select_iff.2 ⟨known, accepted⟩
  obtain ⟨result, left⟩ := runOne_eq (r := r) (w := w) registered known
  have entry {outcome : Outcome} :
      (f.name, outcome) ∈ run.2 ↔ outcomeIn builds r w.tree f = outcome := by
    rw [outcomes]
    exact mem_map_outcomeIn_iff separate.distinct member
  refine ⟨fun path => ?_, fun cause uncrashed => ?_, fun name text => ?_, ?_⟩
  · rw [entry, outcomeIn, ofResult_eq_written_iff, result]
  · rw [entry, outcomeIn, ofResult_eq_failed_iff, result, or_iff_left]
    rintro ⟨text, same, -⟩
    exact uncrashed f.name text same
  · rw [entry, outcomeIn, ofResult_eq_failed_iff, result, or_iff_right saveOf_ne_crashed]
    simp
  · rw [tree.read_eq, left]
    exact read_saveAll_of_mem separate member

/-- What a batch comes to as long as nobody sets the flag, under a schedule that ends it. -/
def Yields (builds : β → Build) (r : Runner) (c : Catalogue β) (filter : String → Bool)
    (w : Workspace β) (run : Workspace β × List (String × Outcome)) : Prop :=
  ∃ schedule, .signal true ∉ schedule ∧ r.endsUnder schedule builds c filter w ∧
    run = r.runAllUnder schedule builds c filter w

theorem yields_runAll (builds : β → Build) (r : Runner) (c : Catalogue β)
    (filter : String → Bool) (w : Workspace β) :
    r.Yields builds c filter w (r.runAll builds c filter w) :=
  ⟨_, not_mem_firstWorkerOnly _ _ true, isDone_firstWorkerOnly (r.threads_pos _) w,
    runAll_eq_runAllUnder builds r c filter w⟩

section

variable (registered : c.Registered) (plain : ∀ f ∈ c.fixtures, f.Plain)
  (pure : ∀ builder, (builds builder).cancels = false) (clear : w.cancelled = false)

include registered plain pure clear

theorem Yields.outcomes {run : Workspace β × List (String × Outcome)}
    (yields : r.Yields builds c filter w run) :
    run.2 = ((c.select filter).map fun f => (f.name, outcomeIn builds r w.tree f)) ∧
      Tree.Alike run.1.tree (saveAll builds r (c.select filter) w.tree) := by
  obtain ⟨schedule, unset, ends, rfl⟩ := yields
  exact outcomes_under registered plain pure clear unset ends

/-- Whatever the number of workers and the order of their steps: with the flag clear, a batch of
fixtures whose names hold no slash does for each of them what generating it alone does. So a fixture
comes to the same in all batches that accept it, whatever the others are and come to. -/
theorem batch_eq_parts :
    (∀ schedule, .signal true ∉ schedule →
      r.Fair (c.fixtures.filter fun f => filter f.name).length schedule →
      r.Yields builds c filter w (r.runAllUnder schedule builds c filter w)) ∧
    r.Yields builds c filter w (r.runAll builds c filter w) ∧
    ∀ run, r.Yields builds c filter w run →
      EachAlone builds r c filter w run ∧
      ∀ (c' : Catalogue β) filter' jobs run', c'.Registered → (∀ f ∈ c'.fixtures, f.Plain) →
        ({ r with jobs } : Runner).Yields builds c' filter' w run' →
        ∀ f ∈ c.fixtures, filter f.name = true → f ∈ c'.fixtures → filter' f.name = true →
          (∀ outcome, (f.name, outcome) ∈ run.2 ↔ (f.name, outcome) ∈ run'.2) ∧
            run.1.tree.read (f.path r.directory) = run'.1.tree.read (f.path r.directory) := by
  rw [← c.select_eq filter]
  refine ⟨fun schedule unset fair => ?_, yields_runAll builds r c filter w, fun run yields => ?_⟩
  · exact ⟨schedule, unset, endsUnder_of_fair schedule builds r c filter w fair, rfl⟩
  obtain ⟨outcomes, tree⟩ := yields.outcomes registered plain pure clear
  refine ⟨eachAlone_of_outcomes registered plain outcomes tree, ?_⟩
  intro c' filter' jobs run' registered' plain' yields' f known accepts known' accepts'
  obtain ⟨outcomes', tree'⟩ := yields'.outcomes registered' plain' pure clear
  have member : f ∈ c.select filter := Catalogue.mem_select_iff.2 ⟨known, accepts⟩
  have member' : f ∈ c'.select filter' := Catalogue.mem_select_iff.2 ⟨known', accepts'⟩
  have separate : Separate (c.select filter) := separate_select registered plain
  have separate' : Separate (c'.select filter') := separate_select registered' plain'
  constructor
  · intro outcome
    rw [outcomes, outcomes', mem_map_outcomeIn_iff separate.distinct member,
      mem_map_outcomeIn_iff separate'.distinct member']
    rfl
  · rw [tree.read_eq, tree'.read_eq, read_saveAll_of_mem separate member]
    exact (read_saveAll_of_mem (r := { r with jobs }) separate' member').symm

end

end Runner

/-- The sample without one of its fixtures, and with a builder that crashes in place of another. -/
def Catalogue.damaged : Catalogue Built :=
  ⟨[⟨"acos", Corpus.acos⟩, ⟨"neg", .error (.crash "neg")⟩]⟩

/-- The builder of the second fixture crashes, and the others are written all the same. -/
theorem Runner.batch_eq_parts_interleaved :
    let r : Runner := { directory := "out", jobs := 2 }
    let builds (built : Built) : Build := { result := built }
    let w : Workspace Built := { tree := { entries := [(["out"], .directory)] } }
    let run := r.runAllUnder Batch.interleaved builds .sample (fun _ => true) w
    let run' := ({ r with jobs := 1 } : Runner).runAll builds .damaged (fun _ => true) w
    let acos : Fixture Built := ⟨"acos", Corpus.acos⟩
    Batch.EachAlone builds r .sample (fun _ => true) w run ∧
      run.2 = [("acos", .written "out/acos.onnx"), ("broken", .failed (.crashed "broken" "broken")),
        ("neg", .written "out/neg.onnx")] ∧
      (r.runOne builds .sample "acos" w).2 = .ok "out/acos.onnx" ∧
      (r.runOne builds .sample "broken" w).2 = .error (.crash "broken") ∧
      (∀ outcome, ("acos", outcome) ∈ run.2 ↔ ("acos", outcome) ∈ run'.2) ∧
      run.1.tree.read (acos.path "out") = run'.1.tree.read (acos.path "out") := by
  intro r builds w run run' acos
  have yields : r.Yields builds .sample (fun _ => true) w run :=
    ⟨Batch.interleaved, by decide, by decide, rfl⟩
  have outcomes :
      run.2 = [("acos", .written "out/acos.onnx"), ("broken", .failed (.crashed "broken" "broken")),
        ("neg", .written "out/neg.onnx")] := by decide
  obtain ⟨alone, others⟩ := (batch_eq_parts (Catalogue.registered_iff.2 (by decide)) (by decide)
    (fun _ => rfl) rfl).2.2 run yields
  have first := (alone.each acos (List.mem_cons_self ..) rfl).written "out/acos.onnx"
  have second := (alone.each ⟨"broken", .error (.crash "broken")⟩
    (List.mem_cons_of_mem _ (List.mem_cons_self ..)) rfl).crashed "broken" "broken"
  rw [outcomes] at first second
  exact ⟨alone, outcomes, first.1 (by decide), (second.1 (by decide)).2,
    others .damaged (fun _ => true) 1 run' (Catalogue.registered_iff.2 (by decide))
    (by decide) (yields_runAll builds _ .damaged _ w) acos (List.mem_cons_self ..) rfl
    (List.mem_cons_self ..) rfl⟩

end OnnxCorpus
