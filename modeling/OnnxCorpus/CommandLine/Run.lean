import OnnxCorpus.Batch
import OnnxCorpus.CommandLine.Arguments
import OnnxCorpus.CommandLine.LogFilter
import OnnxCorpus.CommandLine.Summary
import OnnxCorpus.Corpus
import OnnxCorpus.Text.Parts

/-!
# Running commands

What a command prints, the code it ends with, and the files it leaves behind. A command that fails
ends with code one and an error with its causes; arguments that make no sense end with code two,
and a crash with code 101.
-/

namespace OnnxCorpus.CommandLine

/-- An error with its causes, nearest first. -/
structure Failure where
  text : String
  causes : List String
deriving DecidableEq

/-- A text whose lines after the first are indented. -/
def indentRest (width : Nat) (text : String) : String :=
  String.ofList (text.toList.flatMap fun c =>
    if c = '\n' then '\n' :: List.replicate width ' ' else [c])

/-- The causes of an error as they are reported: a single one is indented, several are numbered. -/
def causeLines : List String → List String
  | [] => []
  | [cause] => ["", "Caused by:", "    " ++ indentRest 4 cause]
  | causes => ["", "Caused by:"] ++ causes.mapIdx fun i cause => s!"    {i}: {indentRest 7 cause}"

/-- An error as it is reported. -/
def Failure.report (f : Failure) : String :=
  "\n".intercalate (s!"Error: {f.text}" :: causeLines f.causes) ++ "\n"

/-- How a command ends. -/
inductive Ending where
  | done
  | failed (failure : Failure)
  | crashed
deriving DecidableEq

/-- The lines a command prints, how it ends, and the tree it leaves behind. -/
structure Run where
  tree : Tree
  lines : List String
  ending : Ending

/-- What the program leaves to see: its exit code, its output and its error. -/
structure Report where
  code : Nat
  output : String
  error : String
deriving DecidableEq

/-- Lines, each with its end. -/
def unlines (lines : List String) : String := String.join (lines.map (· ++ "\n"))

theorem toList_unlines (lines : List String) :
    (unlines lines).toList = lines.flatMap fun line => line.toList ++ ['\n'] := by
  simp [unlines, List.flatMap_map]

/-- The lines can be read off the text, if none of them holds a line break. -/
theorem pieces_unlines {lines : List String} (whole : ∀ line ∈ lines, '\n' ∉ line.toList) :
    Text.pieces '\n' (unlines lines).toList = lines.map String.toList ++ [[]] := by
  rw [toList_unlines]
  induction lines with
  | nil => rfl
  | cons line rest ih =>
    obtain ⟨first, later⟩ := List.forall_mem_cons.1 whole
    rw [List.flatMap_cons, List.append_assoc, List.singleton_append, Text.pieces_append_cons,
      Text.pieces_of_not_mem first, ih later]
    rfl

/-- What can be seen of a run. -/
def Run.toReport (r : Run) : Report :=
  match r.ending with
  | .done => ⟨0, unlines r.lines, ""⟩
  | .failed failure => ⟨1, unlines r.lines, failure.report⟩
  | .crashed => ⟨101, unlines r.lines, ""⟩

/-- The ending for a fault, its error put into a context. -/
def Ending.ofFault {ε : Type} (context : String) (message : ε → String)
    (causes : ε → List String) : Fault ε → Ending
  | .error cause => .failed ⟨context, message cause :: causes cause⟩
  | .crash _ => .crashed

/-- Generates fixtures by name, up to the first that fails, and prints their paths. -/
def generateNames {β : Type} (builds : β → Build) (r : Runner) (c : Catalogue β)
    (w : Workspace β) : List String → Run
  | [] => ⟨w.tree, [], .done⟩
  | name :: rest =>
    match r.runOne builds c name w with
    | (w, .ok path) =>
      let run := generateNames builds r c w rest
      { run with lines := path :: run.lines }
    | (w, .error fault) =>
      ⟨w.tree, [], .ofFault s!"generating {name}" FixtureError.message FixtureError.causes fault⟩

/-- The line of an outcome. -/
def outcomeLine (name : String) : Outcome → String
  | .written path => s!"ok      {name} -> {path}"
  | .failed cause => s!"FAILED  {name}: {cause.message}"
  | .cancelled => s!"skipped {name}"

/-- Whether an outcome is a failure. -/
def isFailed : Outcome → Bool
  | .failed _ => true
  | .written _ | .cancelled => false

/-- What is printed of a batch that has ended, the files it left, and how its command ends. -/
def Run.ofBatch {β : Type} (batch : Workspace β × List (String × Outcome)) : Run :=
  let failed := batch.2.countP fun (_, outcome) => isFailed outcome
  ⟨batch.1.tree,
    batch.2.map (fun (name, outcome) => outcomeLine name outcome) ++
      [s!"{batch.2.length} fixtures, {failed} failed"],
    if failed = 0 then .done else .failed ⟨s!"{failed} fixture(s) failed", []⟩⟩

/-- Whether a filter accepts a name: the name contains it, if there is one. -/
def accepts (filter : Option String) (name : String) : Bool := filter.all (Text.isPartOf · name)

/-- Generates the fixtures that a filter accepts and prints what became of each. -/
def generateAll {β : Type} (builds : β → Build) (r : Runner) (c : Catalogue β)
    (filter : Option String) (w : Workspace β) : Run :=
  .ofBatch (r.runAll builds c (accepts filter) w)

/-- Prints the summary of the model in a file. -/
def inspectFile (t : Tree) (file : String) : Run :=
  match Model.load t file with
  | .ok model => ⟨t, model.summary, .done⟩
  | .error fault =>
    ⟨t, [], .ofFault s!"loading {file}" LoadError.message LoadError.causes fault⟩

/-- Makes the output directory and goes on in it. -/
def withOutDir (t : Tree) (outDir : String) (next : Workspace Built → Run) : Run :=
  match t.createDirectories outDir with
  | (t, .error e) => ⟨t, [], .failed ⟨s!"creating {outDir}", [e.message]⟩⟩
  | (t, .ok ()) => next { tree := t }

/-- The builders of the corpus never set the flag. -/
def buildCorpus (built : Built) : Build := ⟨built, false⟩

/-- Runs a command. -/
def Command.run (outDir : String) (t : Tree) : Command → Run
  | .list => ⟨t, Corpus.catalogue.names, .done⟩
  | .generate names =>
    withOutDir t outDir fun w =>
      generateNames buildCorpus { directory := outDir } Corpus.catalogue w names
  | .all filter jobs =>
    withOutDir t outDir fun w =>
      generateAll buildCorpus { directory := outDir, jobs } Corpus.catalogue filter w
  | .inspect file => inspectFile t file

/-- Runs a command after a look at the log filter. -/
def Invocation.run (i : Invocation) (t : Tree) : Run :=
  match checkLogFilter i.log with
  | .ok () => i.command.run i.outDir t
  | .error fault =>
    ⟨t, [], .ofFault "invalid --log filter" FilterError.message FilterError.causes fault⟩

/-- The name and version of the program. -/
def versionLine : String := "onnxfixtures 0.1.0"

/-- The ways to call the program. -/
def usageLines : List String := [
  "Generate ONNX test fixtures",
  "",
  "Usage: onnxfixtures [--out-dir <OUT_DIR>] [--log <LOG>] <COMMAND>",
  "",
  "Commands:",
  "  list                                   Print every registered fixture name",
  "  gen <NAMES>...                         Generate the named fixtures",
  "  all [--filter <FILTER>] [--jobs <N>]   Generate every registered fixture",
  "  inspect <FILE>                         Summarize an existing ONNX file"]

/-- What the program does with its arguments, in a tree. -/
def run (arguments : List String) (t : Tree) : Tree × Report :=
  match Request.ofArguments arguments with
  | .run invocation =>
    let run := invocation.run t
    (run.tree, run.toReport)
  | .version => (t, ⟨0, unlines [versionLine], ""⟩)
  | .help => (t, ⟨0, unlines usageLines, ""⟩)
  | .usage => (t, ⟨2, "", ""⟩)

end OnnxCorpus.CommandLine
