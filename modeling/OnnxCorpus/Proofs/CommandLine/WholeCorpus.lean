import OnnxCorpus.Proofs.CommandLine.Arguments
import OnnxCorpus.Proofs.CommandLine.OutputDirectory

/-!
# Generating the whole corpus

A request to generate all fixtures, or those that a filter asks for, reports truthfully
(`CommandLine.all_truthful`): there is one line for each of them, the count of failures is that of
the lines that tell of one, so is the exit code, and the lines that tell of success are of the
fixtures whose files are there. The lines do not depend on the order in which workers take their
steps.
-/

namespace OnnxCorpus.CommandLine

open Batch

/-- The fixtures whose names contain what a filter asks for, in the order of registration. -/
def chosen {β : Type} (c : Catalogue β) (filter : Option String) : List (Fixture β) :=
  c.fixtures.filter fun f => ∀ part ∈ filter, part.toList <:+: f.name.toList

/-- Whether a line tells of a failure. -/
def isFailureLine (line : String) : Bool := "FAILED".toList.isPrefixOf line.toList

/-- The report that the lines of fixtures call for. After them come the numbers of lines and of
failures, and the exit code tells whether a line tells of a failure. -/
def Report.ofLines (lines : List String) : Report :=
  let failures := lines.countP isFailureLine
  let output := unlines (lines ++ [s!"{lines.length} fixtures, {failures} failed"])
  if lines.any isFailureLine then
    ⟨1, output, Failure.report ⟨s!"{failures} fixture(s) failed", []⟩⟩
  else ⟨0, output, ""⟩

/-- A report on fixtures, with one line for each, is true of the files: each line tells of a file or
a failure, and the fixtures that were generated are those whose line tells of a file. -/
structure Truthful (r : Runner) (fixtures : List (Fixture Built)) (line : Fixture Built → String)
    (t made left : Tree) (report : Report) : Prop where
  report : report = .ofLines (fixtures.map line)
  lines : ∀ f ∈ fixtures, line f = outcomeLine f.name (.written (f.path r.directory)) ∨
    ∃ cause, line f = outcomeLine f.name (.failed cause)
  leaves : Leaves r t made left
    ((fixtures.filter fun f => !isFailureLine (line f)).map (·.name))

variable {β : Type} {builds : β → Build} {r : Runner} {c : Catalogue β} {f : Fixture β}
  {t made : Tree} {filter : Option String}

/-! ### What is chosen -/

theorem accepts_iff {name : String} :
    accepts filter name = true ↔ ∀ part ∈ filter, part.toList <:+: name.toList := by
  have found (part : String) :
      Text.isPartOf part name = true ↔ part.toList <:+: name.toList := by
    rw [Text.isPartOf, Text.occursIn_iff]
    exact ⟨fun ⟨before, after, split⟩ => ⟨before, after, split.symm⟩,
      fun ⟨before, after, split⟩ => ⟨before, after, split.symm⟩⟩
  cases filter with
  | none => simp [accepts]
  | some part => simp [accepts, found]

theorem select_accepts (c : Catalogue β) (filter : Option String) :
    c.select (accepts filter) = chosen c filter := by
  refine List.filter_congr fun f _ => ?_
  rw [Bool.eq_iff_iff, accepts_iff, decide_eq_true_iff]

theorem mem_of_mem_chosen (member : f ∈ chosen c filter) : f ∈ c.fixtures :=
  List.mem_of_mem_filter member

/-! ### What is printed -/

theorem isFailureLine_outcomeLine (name : String) (outcome : Outcome) :
    isFailureLine (outcomeLine name outcome) = isFailed outcome := by
  cases outcome <;>
    simp [isFailureLine, outcomeLine, isFailed, toString, List.isPrefixOf_cons_cons]

theorem toReport_ofBatch (batch : Workspace β × List (String × Outcome)) :
    (Run.ofBatch batch).toReport =
      .ofLines (batch.2.map fun (name, outcome) => outcomeLine name outcome) := by
  let lines := batch.2.map fun (name, outcome) => outcomeLine name outcome
  have count : batch.2.countP (fun (_, outcome) => isFailed outcome) =
      lines.countP isFailureLine := by
    rw [List.countP_map]
    exact congrArg (batch.2.countP ·) (funext fun _ => (isFailureLine_outcomeLine ..).symm)
  have some_iff : lines.any isFailureLine = true ↔ 0 < lines.countP isFailureLine :=
    List.any_eq_true.trans List.countP_pos_iff.symm
  have length : batch.2.length = lines.length := (List.length_map _).symm
  show (Run.ofBatch batch).toReport = .ofLines lines
  rw [Run.ofBatch, Report.ofLines, count, length]
  by_cases none : lines.countP isFailureLine = 0
  · rw [if_pos none, if_neg (by simp [some_iff, none])]
    rfl
  · rw [if_neg none, if_pos (some_iff.2 (Nat.pos_of_ne_zero none))]
    rfl

/-! ### What becomes of the fixtures -/

theorem isFailed_outcomeIn :
    isFailed (outcomeIn builds r t f) = (destination? builds r t f).isNone := by
  rw [outcomeIn, result_saveOf, destination?]
  rcases deliveryIn builds r t f with (cause | text) | d <;> rfl

/-- A batch whose outcomes are what becomes of each fixture in the tree at the start, and which
leaves the tree that their saves leave, is reported truthfully. -/
theorem truthful_ofBatch {fixtures : List (Fixture Built)}
    {batch : Workspace Built × List (String × Outcome)}
    (created : t.createDirectories r.directory = (made, .ok ()))
    (among : ∀ f ∈ fixtures, f ∈ Corpus.catalogue.fixtures)
    (outcomes : batch.2 = fixtures.map fun f => (f.name, outcomeIn buildCorpus r made f))
    (tree : Tree.Alike batch.1.tree (saveAll buildCorpus r fixtures made)) :
    Truthful r fixtures (fun f => outcomeLine f.name (outcomeIn buildCorpus r made f)) t made
      batch.1.tree (Run.ofBatch batch).toReport := by
  refine ⟨?_, fun f _ => ?_, ?_⟩
  · rw [toReport_ofBatch, outcomes, List.map_map]
    rfl
  · rcases outcomeIn_cases (r := r) (t := made) with written | ⟨cause, failed⟩
    · exact .inl (congrArg _ written)
    · exact .inr ⟨cause, congrArg _ failed⟩
  · simp only [isFailureLine_outcomeLine, isFailed_outcomeIn]
    refine leaves_saveAll created (fun f member => among f (List.mem_of_mem_filter member))
      (fun f member => ?_) (tree.trans (saveAll_filter fun f _ dropped => ?_))
    · obtain ⟨-, saved⟩ := List.mem_filter.1 member
      exact Option.isSome_iff_exists.1 (by simpa using saved)
    · simpa using dropped

/-- The fixtures that a filter asks for are reported truthfully, whatever the workers and the order
of their steps: the line of each of them is that of its outcome in the tree at the start. Where the
output directory cannot be made, nothing is done at all. -/
theorem all_truthful {arguments : List String} {outDir log : String} {jobs : Nat}
    (asked : Request.ofArguments arguments = .run ⟨outDir, log, .all filter jobs⟩)
    (logged : checkLogFilter log = .ok ()) (t : Tree) :
    (∀ made, t.createDirectories outDir = (made, .ok ()) →
      let r : Runner := { directory := outDir, jobs }
      let fixtures := chosen Corpus.catalogue filter
      let Yields := r.Yields buildCorpus Corpus.catalogue (accepts filter) { tree := made }
      (∃ batch, Yields batch ∧ run arguments t = (batch.1.tree, (Run.ofBatch batch).toReport)) ∧
      (∀ schedule, .signal true ∉ schedule → r.Fair fixtures.length schedule →
        Yields (r.runAllUnder schedule buildCorpus Corpus.catalogue (accepts filter)
          { tree := made })) ∧
      ∀ batch, Yields batch →
        Truthful r fixtures (fun f => outcomeLine f.name (outcomeIn buildCorpus r made f)) t made
          batch.1.tree (Run.ofBatch batch).toReport) ∧
    ∀ made e, t.createDirectories outDir = (made, .error e) →
      Refused outDir t e (run arguments t).1 (run arguments t).2 := by
  rw [run_eq asked logged]
  refine ⟨fun made created => ?_, fun made e refused => refused_withOutDir refused⟩
  intro r fixtures Yields
  refine ⟨?_, fun schedule unset fair => ?_, fun batch yields => ?_⟩
  · rw [Command.run, withOutDir_eq created]
    exact ⟨_, Runner.yields_runAll .., rfl⟩
  · have fair : r.Fair (Corpus.catalogue.select (accepts filter)).length schedule := by
      rwa [select_accepts]
    exact ⟨schedule, unset, Runner.endsUnder_of_fair schedule buildCorpus r _ _ _ fair, rfl⟩
  · obtain ⟨outcomes, tree⟩ := yields.outcomes Corpus.registered_catalogue
      (fun f member => Corpus.plain_of_mem member) (fun _ => rfl) rfl
    rw [select_accepts] at outcomes tree
    exact truthful_ofBatch created (fun f member => mem_of_mem_chosen member) outcomes tree

/-- A directory in the place of a file is in the way of one of two fixtures. -/
theorem all_truthful_blocked :
    let t : Tree := { entries := [(["out"], .directory), (["out", "neg_test.onnx"], .directory)] }
    let r : Runner := { directory := "out", jobs := 2 }
    let after := run [attached "out-dir" "out", "all", attached "filter" "neg",
      attached "jobs" "2"] t
    checkLogFilter "info" = .ok () ∧ t.createDirectories "out" = (t, .ok ()) ∧
      after.2 = ⟨1,
        "FAILED  neg_test: fixture 'neg_test' failed to export: IO error: Is a directory " ++
          "(os error 21)\n" ++
          "ok      dequantizelinear_neg_axis_test -> out/dequantizelinear_neg_axis_test.onnx\n" ++
          "2 fixtures, 1 failed\n",
        "Error: 1 fixture(s) failed\n"⟩ ∧
      Truthful r (chosen Corpus.catalogue (some "neg"))
        (fun f => outcomeLine f.name (outcomeIn buildCorpus r t f)) t t after.1 after.2 := by
  intro t r after
  have logged : checkLogFilter "info" = .ok () := by decide
  have created : t.createDirectories "out" = (t, .ok ()) := by decide
  have count : Text.readCount? "2" = some 2 := by decide
  obtain ⟨⟨batch, yields, ran⟩, -, truthful⟩ :=
    (all_truthful (ofArguments_all "out" "neg" count) logged t).1 t created
  have left : after = (batch.1.tree, (Run.ofBatch batch).toReport) := ran
  refine ⟨logged, created, by decide +kernel, ?_⟩
  rw [left]
  exact truthful batch yields

end OnnxCorpus.CommandLine
