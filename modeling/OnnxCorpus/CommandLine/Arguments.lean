import OnnxCorpus.Text.Parts

/-!
# Arguments

The arguments of the program: two options that every command takes, then a command with its own
options and operands. An option is given once on each side of the command, and the one after the
command counts. Two dashes end the options. The version and the help end the reading of arguments
where they stand, if nothing before them was wrong.
-/

namespace OnnxCorpus.CommandLine

/-- What the program is asked to do. -/
inductive Command where
  | list
  | generate (names : List String)
  | all (filter : Option String) (jobs : Nat)
  | inspect (file : String)
deriving DecidableEq

/-- A command, the directory that models are saved in, and what is logged. -/
structure Invocation where
  outDir : String
  log : String
  command : Command
deriving DecidableEq

/-- What arguments ask for. Arguments that make no sense ask for the usage. -/
inductive Request where
  | run (invocation : Invocation)
  | version
  | help
  | usage
deriving DecidableEq

/-- The commands by name. -/
inductive Verb where
  | list
  | generate
  | all
  | inspect
deriving DecidableEq

/-- The command that a word names. -/
def Verb.ofName? : String → Option Verb
  | "list" => some list
  | "gen" => some generate
  | "all" => some all
  | "inspect" => some inspect
  | _ => none

/-- The options that take a value. -/
inductive OptionName where
  | outDir
  | log
  | filter
  | jobs
deriving DecidableEq

/-- The option of a name, among those that are known before a command or after it. -/
def OptionName.ofName? (verb : Option Verb) : String → Option OptionName
  | "out-dir" => some outDir
  | "log" => some log
  | "filter" => if verb = some .all then some filter else none
  | "jobs" => if verb = some .all then some jobs else none
  | _ => none

/-- The options and operands on one side of the command, in the order they were given. -/
structure Given where
  options : List (OptionName × String) := []
  operands : List String := []
deriving DecidableEq

namespace Given

/-- The value that was given for an option. -/
def value? (g : Given) (name : OptionName) : Option String := g.options.lookup name

/-- One more option, unless it was given before or its value makes no sense. -/
def withOption (g : Given) (name : OptionName) (value : String) : Option Given :=
  if (g.value? name).isSome ∨ (name = .jobs ∧ (Text.readCount? value).isNone) then none
  else some { g with options := g.options ++ [(name, value)] }

/-- Whether a command takes one more operand after those given. -/
def takesOperand (verb : Verb) (g : Given) : Bool :=
  match verb with
  | .list | .all => false
  | .generate => true
  | .inspect => g.operands.isEmpty

/-- One more operand of a command, if it takes one. -/
def withOperand (verb : Verb) (g : Given) (operand : String) : Option Given :=
  if g.takesOperand verb then some { g with operands := g.operands ++ [operand] } else none

end Given

/-- An argument that is not the value of an option. -/
inductive Word where
  /-- The end of the options. -/
  | dashes
  /-- An option with its name, and its value if that is attached. -/
  | long (name : String) (value : Option String)
  /-- Letters after one dash. -/
  | short (letters : List Char)
  | operand (text : String)
deriving DecidableEq

/-- How an argument reads. A single dash is an operand. -/
def Word.ofArgument (argument : String) : Word :=
  match argument.toList with
  | ['-', '-'] => dashes
  | '-' :: '-' :: rest =>
    let name := rest.takeWhile (· ≠ '=')
    let value := match rest.dropWhile (· ≠ '=') with
      | [] => none
      | _ :: value => some (String.ofList value)
    long (String.ofList name) value
  | ['-'] => operand argument
  | '-' :: letters => short letters
  | _ => operand argument

/-- What ends the reading of arguments early: the version, which is known before a command only,
the help, or something that is not known. -/
def earlyRequest (verb : Option Verb) : Word → Request
  | .long "version" none => if verb = none then .version else .usage
  | .long "help" none => .help
  | .short ('V' :: _) => if verb = none then .version else .usage
  | .short ('h' :: _) => .help
  | _ => .usage

/-- The operands after the end of the options. -/
def readOperands (verb : Verb) (g : Given) (arguments : List String) : Option Given :=
  arguments.foldlM (Given.withOperand verb) g

/-- The options and operands after a command. -/
def readGiven (verb : Verb) (g : Given) : List String → Except Request Given
  | [] => .ok g
  | argument :: rest =>
    match Word.ofArgument argument with
    | .dashes =>
      match readOperands verb g rest with
      | some g => .ok g
      | none => .error .usage
    | .operand text =>
      match g.withOperand verb text with
      | some g => readGiven verb g rest
      | none => .error .usage
    | .long name attached =>
      match OptionName.ofName? (some verb) name, attached, rest with
      | some option, some value, rest =>
        match g.withOption option value with
        | some g => readGiven verb g rest
        | none => .error .usage
      | some option, none, value :: rest =>
        match Word.ofArgument value, g.withOption option value with
        | .operand _, some g => readGiven verb g rest
        | _, _ => .error .usage
      | some _, none, [] => .error .usage
      | none, attached, _ => .error (earlyRequest (some verb) (.long name attached))
    | .short letters => .error (earlyRequest (some verb) (.short letters))

/-- The command of a verb with what was given for it. -/
def toCommand? (verb : Verb) (g : Given) : Option Command :=
  match verb with
  | .list => some .list
  | .generate => if g.operands.isEmpty then none else some (.generate g.operands)
  | .all => some (.all (g.value? .filter) (((g.value? .jobs).bind Text.readCount?).getD 1))
  | .inspect => g.operands.head?.map .inspect

/-- The request of a command with its arguments, after the options before it. -/
def readCommand (before : Given) (verb : Verb) (arguments : List String) : Request :=
  match readGiven verb {} arguments with
  | .error request => request
  | .ok after =>
    let value (name : OptionName) (default : String) : String :=
      ((after.value? name).or (before.value? name)).getD default
    match toCommand? verb after with
    | none => .usage
    | some command => .run ⟨value .outDir ".", value .log "info", command⟩

/-- The request of what follows the word for help: nothing, or one name that has a help of its
own. -/
def readHelp : List String → Request
  | [] => .help
  | [name] => if name = "help" ∨ (Verb.ofName? name).isSome then .help else .usage
  | _ => .usage

/-- The request of arguments, after the options before them. -/
def readRequest (before : Given) : List String → Request
  | [] => .usage
  | argument :: rest =>
    match Word.ofArgument argument with
    | .dashes => .usage
    | .operand "help" => readHelp rest
    | .operand name =>
      match Verb.ofName? name with
      | some verb => readCommand before verb rest
      | none => .usage
    | .long name attached =>
      match OptionName.ofName? none name, attached, rest with
      | some option, some value, rest =>
        match before.withOption option value with
        | some before => readRequest before rest
        | none => .usage
      | some option, none, value :: rest =>
        match Word.ofArgument value, before.withOption option value with
        | .operand _, some before => readRequest before rest
        | _, _ => .usage
      | some _, none, [] => .usage
      | none, attached, _ => earlyRequest none (.long name attached)
    | .short letters => earlyRequest none (.short letters)

/-- The request of the arguments of the program. -/
def Request.ofArguments (arguments : List String) : Request := readRequest {} arguments

end OnnxCorpus.CommandLine
