import OnnxCorpus.Proofs.CommandLine.Arguments
import OnnxCorpus.Proofs.CommandLine.OutputDirectory

/-!
# Generating by name

A request to generate fixtures by name does the work for the names before the first that fails and
none of the work after it: what it prints, the code it ends with and the files it leaves behind all
tell of the same names (`CommandLine.generate_upToFailure`). Of the files, only those of these names
are different afterwards (`CommandLine.Leaves`).
-/

namespace OnnxCorpus

/-! ### One name -/

section

variable {β : Type} {builds : β → Build} {r : Runner} {c : Catalogue β} {f : Fixture β} {t : Tree}

/-- A fixture whose builder does not fail is saved, or fails with an error. -/
theorem Batch.deliveryIn_cases (fine : ∃ parts, (builds f.builder).result = .ok parts) :
    (∃ place bytes, deliveryIn builds r t f = .ok (place, bytes)) ∨
      ∃ cause, deliveryIn builds r t f = .error (.error cause) := by
  obtain ⟨parts, built⟩ := fine
  have model : modelOf builds f = .ok ⟨parts.toGraph f.name, f.name⟩ := by
    rw [modelOf, built]
    rfl
  rw [deliveryIn, Fixture.delivery, model, Fallible.ok_bind]
  cases Model.encode r.versions ⟨parts.toGraph f.name, f.name⟩ with
  | error e => exact .inr ⟨_, rfl⟩
  | ok bytes =>
    cases t.target (f.path r.directory) with
    | error e => exact .inr ⟨_, rfl⟩
    | ok place => exact .inl ⟨place, bytes, rfl⟩

open Batch

/-- Where no builder fails, a name is that of a fixture that is saved, or it fails with an error and
changes nothing. -/
theorem Runner.runOne_cases (r : Runner) (registered : c.Registered)
    (fine : ∀ f ∈ c.fixtures, ∃ parts, (builds f.builder).result = .ok parts)
    (name : String) (w : Workspace β) :
    (∃ f ∈ c.fixtures, f.name = name ∧
      (∃ place, destination? builds r w.tree f = some place) ∧
      ∃ next, r.runOne builds c name w = (next, .ok (f.path r.directory)) ∧
        next.tree = (saveOf builds r f w.tree).1) ∨
    ∃ stopped cause, r.runOne builds c name w = (stopped, .error (.error cause)) ∧
      Tree.Alike stopped.tree w.tree := by
  cases found : c.get? name with
  | none =>
    refine .inr ⟨w, .unknownFixture name, ?_, .refl _⟩
    rw [runOne, runOneWith, found]
  | some f =>
    obtain ⟨member, rfl⟩ := Catalogue.mem_of_get?_eq_some found
    obtain ⟨result, tree⟩ : (r.runOne builds c f.name w).2 = (saveOf builds r f w.tree).2 ∧
        (r.runOne builds c f.name w).1.tree = (saveOf builds r f w.tree).1 :=
      runOne_eq registered member
    rw [result_saveOf] at result
    rcases deliveryIn_cases (r := r) (t := w.tree) (fine f member) with
      ⟨place, bytes, delivered⟩ | ⟨cause, refused⟩
    · rw [delivered] at result
      exact .inl ⟨f, member, rfl, ⟨place, destination?_eq_some_iff.2 ⟨bytes, delivered⟩⟩, _,
        Prod.ext rfl result, tree⟩
    · rw [refused] at result
      refine .inr ⟨_, cause, Prod.ext rfl result, tree ▸ alike_saveOf ?_⟩
      rw [destination?, refused]
      rfl

end

namespace CommandLine

open Batch

variable {β : Type} {builds : β → Build} {r : Runner} {c : Catalogue β} {w last : Workspace β}
  {names paths : List String}

/-! ### Many names -/

/-- Each of some names was generated in turn, which gave their paths. -/
inductive Generates (builds : β → Build) (r : Runner) (c : Catalogue β) :
    Workspace β → List String → List String → Workspace β → Prop where
  | nil (w : Workspace β) : Generates builds r c w [] [] w
  | cons {w next last : Workspace β} {name path : String} {names paths : List String}
      (first : r.runOne builds c name w = (next, .ok path))
      (rest : Generates builds r c next names paths last) :
      Generates builds r c w (name :: names) (path :: paths) last

/-- The work for some names was done up to the first that fails: those before it were generated, all
of them if none fails, and it is their paths that were printed. The name that fails is in the error,
before the causes. -/
inductive UpToFailure (builds : β → Build) (r : Runner) (c : Catalogue β) (w : Workspace β)
    (names : List String) : List String → Report → Prop where
  | all {last : Workspace β}
      (generates :
        Generates builds r c w names (names.map (Command.paths.filePath r.directory)) last) :
      UpToFailure builds r c w names names
        ⟨0, unlines (names.map (Command.paths.filePath r.directory)), ""⟩
  | upTo {generated after : List String} {name : String} {last stopped : Workspace β}
      {cause : FixtureError} (split : names = generated ++ name :: after)
      (generates :
        Generates builds r c w generated (generated.map (Command.paths.filePath r.directory)) last)
      (failed : r.runOne builds c name last = (stopped, .error (.error cause))) :
      UpToFailure builds r c w names generated
        ⟨1, unlines (generated.map (Command.paths.filePath r.directory)),
          Failure.report ⟨s!"generating {name}", cause.message :: cause.causes⟩⟩

theorem UpToFailure.generated_isPrefix {generated : List String} {report : Report}
    (upTo : UpToFailure builds r c w names generated report) : generated <+: names := by
  cases upTo with
  | all generates => exact List.prefix_rfl
  | upTo split generates failed => exact split ▸ List.prefix_append ..

theorem UpToFailure.output_eq {generated : List String} {report : Report}
    (upTo : UpToFailure builds r c w names generated report) :
    report.output = unlines (generated.map (Command.paths.filePath r.directory)) := by
  cases upTo with
  | all generates => rfl
  | upTo split generates failed => rfl

/-- The paths of what was generated can be read off the output, if none of the paths that were asked
for holds a line break. -/
theorem UpToFailure.pieces_output {generated : List String} {report : Report}
    (upTo : UpToFailure builds r c w names generated report)
    (whole : ∀ name ∈ names, '\n' ∉ (Command.paths.filePath r.directory name).toList) :
    Text.pieces '\n' report.output.toList =
      generated.map (fun name => (Command.paths.filePath r.directory name).toList) ++ [[]] := by
  rw [upTo.output_eq, pieces_unlines, List.map_map]
  · rfl
  · intro path printed
    obtain ⟨name, member, rfl⟩ := List.mem_map.1 printed
    exact whole name (upTo.generated_isPrefix.subset member)

section

variable (registered : c.Registered)
  (fine : ∀ f ∈ c.fixtures, ∃ parts, (builds f.builder).result = .ok parts)

include registered fine

/-- Names that were generated are those of fixtures that were saved. -/
theorem Generates.saves (generates : Generates builds r c w names paths last) :
    ∃ fixtures : List (Fixture β), fixtures.map (·.name) = names ∧
      fixtures.map (·.path r.directory) = paths ∧ (∀ f ∈ fixtures, f ∈ c.fixtures) ∧
      (∀ f ∈ fixtures, ∃ place, destination? builds r w.tree f = some place) ∧
      last.tree = saveAll builds r fixtures w.tree := by
  induction generates with
  | nil w => exact ⟨[], rfl, rfl, by simp, by simp, rfl⟩
  | @cons w next last name path names paths first rest ih =>
    obtain ⟨fixtures, rfl, rfl, among, saved, left⟩ := ih
    rcases r.runOne_cases registered fine name w with
      ⟨f, member, rfl, reached, next', outcome, tree⟩ | ⟨stopped, cause, refused, -⟩
    · obtain ⟨rfl, written⟩ := Prod.mk.inj (first.symm.trans outcome)
      obtain rfl := Except.ok.inj written
      rw [tree] at saved left
      refine ⟨f :: fixtures, rfl, rfl, List.forall_mem_cons.2 ⟨member, among⟩,
        List.forall_mem_cons.2 ⟨reached, fun g there => ?_⟩, left⟩
      obtain ⟨place, later⟩ := saved g there
      exact ⟨place, (destination?_congr (sameDirectories_saveOf f w.tree)).2 later⟩
    · cases (Prod.mk.inj (first.symm.trans refused)).2

theorem Generates.paths_eq (generates : Generates builds r c w names paths last) :
    paths = names.map (Command.paths.filePath r.directory) := by
  obtain ⟨fixtures, rfl, rfl, -⟩ := generates.saves registered fine
  rw [List.map_map]
  rfl

/-- All names are generated, or those before one that fails. -/
theorem generateNames_cases (r : Runner) (w : Workspace β) (names : List String) :
    (∃ paths last, Generates builds r c w names paths last ∧
      generateNames builds r c w names = ⟨last.tree, paths, .done⟩) ∨
    ∃ generated name after paths last stopped cause, names = generated ++ name :: after ∧
      Generates builds r c w generated paths last ∧
      r.runOne builds c name last = (stopped, .error (.error cause)) ∧
      Tree.Alike stopped.tree last.tree ∧
      generateNames builds r c w names = ⟨stopped.tree, paths,
        .failed ⟨s!"generating {name}", cause.message :: cause.causes⟩⟩ := by
  induction names generalizing w with
  | nil => exact .inl ⟨[], w, .nil w, rfl⟩
  | cons name rest ih =>
    rcases r.runOne_cases registered fine name w with
      ⟨f, -, -, -, next, first, -⟩ | ⟨stopped, cause, first, kept⟩
    · rcases ih next with ⟨paths, last, generates, run⟩ | failed
      · refine .inl ⟨_, last, .cons first generates, ?_⟩
        simp only [generateNames, first, run]
      · obtain ⟨generated, failing, after, paths, last, stopped, cause, rfl, generates, failed,
          kept, run⟩ := failed
        refine .inr ⟨name :: generated, failing, after, _, last, stopped, cause, rfl,
          .cons first generates, failed, kept, ?_⟩
        simp only [generateNames, first, run]
    · refine .inr ⟨[], name, rest, [], w, stopped, cause, rfl, .nil w, first, kept, ?_⟩
      simp only [generateNames, first, Ending.ofFault]

/-- Names are generated up to the first that fails, and the tree at the end is like that after the
names before it. -/
theorem generateNames_upToFailure (r : Runner) (w : Workspace β) (names : List String) :
    ∃ generated last,
      Generates builds r c w generated (generated.map (Command.paths.filePath r.directory)) last ∧
      Tree.Alike (generateNames builds r c w names).tree last.tree ∧
      UpToFailure builds r c w names generated (generateNames builds r c w names).toReport := by
  rcases generateNames_cases registered fine r w names with
    ⟨paths, last, generates, run⟩ |
    ⟨generated, name, after, paths, last, stopped, cause, split, generates, failed, kept, run⟩
  · obtain rfl := generates.paths_eq registered fine
    rw [run]
    exact ⟨names, last, generates, .refl _, .all generates⟩
  · obtain rfl := generates.paths_eq registered fine
    rw [run]
    exact ⟨generated, last, generates, kept, .upTo split generates failed⟩

end

/-! ### The command -/

/-- Names are generated up to the first that fails: those before it have their paths printed and
their files left behind, and nothing is done for those from it on. Where the output directory cannot
be made, nothing is done at all. -/
theorem generate_upToFailure {arguments : List String} {outDir log : String}
    (asked : Request.ofArguments arguments = .run ⟨outDir, log, .generate names⟩)
    (logged : checkLogFilter log = .ok ()) (t : Tree) :
    (∀ made, t.createDirectories outDir = (made, .ok ()) →
      ∃ generated,
        UpToFailure buildCorpus { directory := outDir } Corpus.catalogue { tree := made } names
          generated (run arguments t).2 ∧
        Leaves { directory := outDir } t made (run arguments t).1 generated) ∧
    ∀ made e, t.createDirectories outDir = (made, .error e) →
      Refused outDir t e (run arguments t).1 (run arguments t).2 := by
  have fine : ∀ f ∈ Corpus.catalogue.fixtures,
      ∃ parts, (buildCorpus f.builder).result = .ok parts :=
    fun _ member => Corpus.exists_parts_of_mem member
  rw [run_eq asked logged]
  refine ⟨fun made created => ?_, fun made e refused => refused_withOutDir refused⟩
  rw [Command.run, withOutDir_eq created]
  obtain ⟨generated, last, generates, alike, upTo⟩ := generateNames_upToFailure
    Corpus.registered_catalogue fine { directory := outDir } { tree := made } names
  obtain ⟨fixtures, rfl, -, among, saved, tree⟩ :=
    generates.saves Corpus.registered_catalogue fine
  exact ⟨_, upTo, leaves_saveAll created among saved (tree ▸ alike)⟩

/-- Of three names the second is unknown, so the first is the only one that is generated. -/
theorem generate_upToFailure_missing :
    let names := ["neg_test", "missing", "acos_test"]
    let made : Tree := { entries := [(["out"], .directory)] }
    let after := run (attached "out-dir" "out" :: "gen" :: "--" :: names) {}
    checkLogFilter "info" = .ok () ∧ Tree.createDirectories {} "out" = (made, .ok ()) ∧
      after.2 = ⟨1, "out/neg_test.onnx\n",
        "Error: generating missing\n\nCaused by:\n    no fixture named 'missing'\n"⟩ ∧
      UpToFailure buildCorpus { directory := "out" } Corpus.catalogue { tree := made } names
        ["neg_test"] after.2 ∧
      Leaves { directory := "out" } {} made after.1 ["neg_test"] := by
  intro names made after
  have logged : checkLogFilter "info" = .ok () := by decide
  have created : Tree.createDirectories {} "out" = (made, .ok ()) := by decide
  have report : after.2 = ⟨1, "out/neg_test.onnx\n",
      "Error: generating missing\n\nCaused by:\n    no fixture named 'missing'\n"⟩ := by
    decide +kernel
  have asked : Request.ofArguments (attached "out-dir" "out" :: "gen" :: "--" :: names) =
      .run ⟨"out", "info", .generate names⟩ := ofArguments_generate "out" (by decide)
  obtain ⟨generated, upTo, leaves⟩ := (generate_upToFailure asked logged {}).1 made created
  -- One path was printed, so one name was generated.
  have printed : (Text.pieces '\n' after.2.output.toList).length = _ :=
    congrArg List.length (upTo.pieces_output (by decide))
  rw [report] at printed
  have one : generated.length = 1 := by simpa [Text.pieces] using printed.symm
  have first : generated = ["neg_test"] := by
    rw [List.prefix_iff_eq_take.1 upTo.generated_isPrefix, one]
    rfl
  subst first
  exact ⟨logged, created, report, upTo, leaves⟩

end CommandLine

end OnnxCorpus
