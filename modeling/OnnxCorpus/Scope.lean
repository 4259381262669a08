import OnnxCorpus.Graph

/-!
# Scopes

A node may use the inputs and initializers of its graph, the outputs of earlier nodes, and, inside
a body, every name that the node owning the body may use. A name is defined once: the outputs of
nodes may not repeat each other, an input, an initializer or a name of the enclosing graph.
`Graph.validate` checks both rules and names the first value that breaks one.
-/

namespace OnnxCorpus

/-- Why a graph is refused: the graph, and the value at fault. -/
inductive ScopeError where
  | undefinedReference (graph opType name : String)
  | duplicateName (graph name : String)
deriving DecidableEq

/-- The text of a refusal. -/
def ScopeError.message : ScopeError → String
  | undefinedReference graph opType name =>
    s!"graph '{graph}': {opType} node references undefined value '{name}'"
  | duplicateName graph name => s!"graph '{graph}': value '{name}' is defined more than once"

namespace Scope

/-- The first name of a list that occurs before, in the list or among the names seen. -/
def repeated? (seen : List String) : List String → Option String
  | [] => none
  | n :: rest => if n ∈ seen then some n else repeated? (n :: seen) rest

/-- Refuses a list in which a name occurs twice. -/
def distinct (graph : String) (names : List String) : Except ScopeError Unit :=
  match repeated? [] names with
  | some n => .error (.duplicateName graph n)
  | none => .ok ()

/-- Refuses a list with a name that is not visible. -/
def resolve (graph opType : String) (visible names : List String) : Except ScopeError Unit :=
  match names.find? (· ∉ visible) with
  | some n => .error (.undefinedReference graph opType n)
  | none => .ok ()

/-- The names that are not left out. -/
def present (names : List String) : List String :=
  names.filter (· ≠ "")

/-- The names a graph defines after the given outputs too: each must be new to the graph and to
its surroundings. -/
def define (graph : String) (outer own : List String) :
    List String → Except ScopeError (List String)
  | [] => .ok own
  | n :: rest =>
    if n ∈ outer ∨ n ∈ own then .error (.duplicateName graph n)
    else define graph outer (n :: own) rest

end Scope

/-- The names a graph starts from: its inputs and initializers. -/
def Graph.givenNames (g : Graph) : List String :=
  g.inputs.map (·.name) ++ g.initializers.map (·.name)

mutual

/-- Checks a graph whose surroundings define the names `outer`. -/
def Graph.check (outer : List String) : Graph → Except ScopeError Unit
  | ⟨name, nodes, inputs, outputs, initializers⟩ => do
    Scope.distinct name (outputs.map (·.name))
    Scope.distinct name (inputs.map (·.name))
    Scope.distinct name (initializers.map (·.name))
    let own ← Node.checkAll name outer
      (inputs.map (·.name) ++ initializers.map (·.name)) nodes
    Scope.resolve name "output" (own ++ outer) (outputs.map (·.name))
termination_by structural g => g

/-- Checks nodes in order and gives the names their graph defines after them. -/
def Node.checkAll (graph : String) (outer own : List String) :
    List Node → Except ScopeError (List String)
  | [] => .ok own
  | node :: rest => do
    let own ← node.check graph outer own
    Node.checkAll graph outer own rest
termination_by structural nodes => nodes

/-- Checks a node: its inputs, its bodies and its outputs. -/
def Node.check (graph : String) (outer own : List String) :
    Node → Except ScopeError (List String)
  | ⟨_, opType, inputs, outputs, attributes⟩ => do
    Scope.resolve graph opType (own ++ outer) (Scope.present inputs)
    Attribute.checkAll (own ++ outer) attributes
    Scope.define graph outer own (Scope.present outputs)
termination_by structural n => n

/-- Checks the bodies among attributes, in the order of the table. -/
def Attribute.checkAll (outer : List String) : List (String × Attribute) → Except ScopeError Unit
  | [] => .ok ()
  | (_, value) :: rest => do
    value.check outer
    Attribute.checkAll outer rest
termination_by structural table => table

/-- Checks a body; other values need no check. -/
def Attribute.check (outer : List String) : Attribute → Except ScopeError Unit
  | .graph body => body.check outer
  | .float _ | .int _ | .string _ | .floats _ | .ints _ | .strings _ | .tensor _ => .ok ()
termination_by structural a => a

end

/-- Checks a graph that stands on its own. -/
def Graph.validate (g : Graph) : Except ScopeError Unit :=
  g.check []

end OnnxCorpus
