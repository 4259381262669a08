import OnnxCorpus.CommandLine.Arguments

/-!
# Arguments that ask for commands

The commands that generate fixtures can be asked for with every output directory: the one by name
for all names (`CommandLine.ofArguments_generate`), and the other for every filter and every number
of workers that can be read (`CommandLine.ofArguments_all`).
-/

namespace OnnxCorpus.CommandLine

/-- An option with its value attached. -/
def attached (name value : String) : String := "--" ++ name ++ "=" ++ value

variable {names : List String}

theorem ofArgument_attached {name : String} (value : String) (plain : '=' ∉ name.toList) :
    Word.ofArgument (attached name value) = .long name (some value) := by
  have letters : (attached name value).toList =
      '-' :: '-' :: (name.toList ++ '=' :: value.toList) := by simp [attached]
  have before : ∀ c ∈ name.toList, decide (c ≠ '=') = true :=
    fun c member => decide_eq_true fun same => plain (same ▸ member)
  have first : (name.toList ++ '=' :: value.toList).takeWhile (· ≠ '=') = name.toList := by
    rw [List.takeWhile_append_of_pos before]
    simp
  have second : (name.toList ++ '=' :: value.toList).dropWhile (· ≠ '=') =
      '=' :: value.toList := by
    rw [List.dropWhile_append_of_pos before]
    simp
  obtain ⟨c, rest, whole⟩ : ∃ c rest, name.toList ++ '=' :: value.toList = c :: rest :=
    List.exists_cons_of_ne_nil (by simp)
  rw [whole] at first second
  simp only [Word.ofArgument, letters, whole, first, second, String.ofList_toList]

theorem readOperands_generate (g : Given) (names : List String) :
    readOperands .generate g names = some { g with operands := g.operands ++ names } := by
  induction names generalizing g with
  | nil => simp [readOperands]
  | cons name rest ih =>
    rw [readOperands, List.foldlM_cons, Given.withOperand, Given.takesOperand, if_pos rfl]
    exact (ih _).trans (by simp)

theorem ofArguments_generate (outDir : String) (given : names ≠ []) :
    Request.ofArguments (attached "out-dir" outDir :: "gen" :: "--" :: names) =
      .run ⟨outDir, "info", .generate names⟩ := by
  have option : Word.ofArgument (attached "out-dir" outDir) = .long "out-dir" (some outDir) :=
    ofArgument_attached outDir (by decide)
  have verb : Word.ofArgument "gen" = .operand "gen" := by decide
  have dashes : Word.ofArgument "--" = .dashes := by decide
  simp [Request.ofArguments, readRequest, option, OptionName.ofName?, Given.withOption,
    Given.value?, verb, Verb.ofName?, readCommand, readGiven, dashes, readOperands_generate,
    toCommand?, given]
  rfl

theorem ofArguments_all (outDir filter : String) {digits : String} {jobs : Nat}
    (count : Text.readCount? digits = some jobs) :
    Request.ofArguments [attached "out-dir" outDir, "all", attached "filter" filter,
        attached "jobs" digits] =
      .run ⟨outDir, "info", .all (some filter) jobs⟩ := by
  have first : Word.ofArgument (attached "out-dir" outDir) = .long "out-dir" (some outDir) :=
    ofArgument_attached outDir (by decide)
  have verb : Word.ofArgument "all" = .operand "all" := by decide
  have second : Word.ofArgument (attached "filter" filter) = .long "filter" (some filter) :=
    ofArgument_attached filter (by decide)
  have third : Word.ofArgument (attached "jobs" digits) = .long "jobs" (some digits) :=
    ofArgument_attached digits (by decide)
  simp [Request.ofArguments, readRequest, first, OptionName.ofName?, Given.withOption,
    Given.value?, verb, Verb.ofName?, readCommand, readGiven, second, third, count,
    toCommand?]
  refine ⟨rfl, rfl, ?_⟩
  show (Text.readCount? digits).getD 1 = jobs
  rw [count, Option.getD_some]

end OnnxCorpus.CommandLine
