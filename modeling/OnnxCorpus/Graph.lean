import OnnxCorpus.Table
import OnnxCorpus.Tensor

/-!
# Graphs and models

A graph is a list of nodes with named inputs, outputs and initializers. Nodes carry attributes in
a table ordered by name, and an attribute may hold a graph of its own, a body. Nothing is checked
when a graph is put together: see `OnnxCorpus.Scope`.
-/

namespace OnnxCorpus

/-- One entry of the shape of a value. -/
inductive Dim where
  | fixed (size : UInt64)
  | param (name : String)
  | unknown
deriving DecidableEq

namespace Dim

/-- A size that may be negative, which stands for an unknown one. -/
def ofInt64 (size : Int64) : Dim :=
  if size < 0 then unknown else fixed size.toUInt64

/-- A size that may be absent. -/
def ofOption : Option UInt64 → Dim
  | some size => fixed size
  | none => unknown

/-- A numeral stands for a fixed size. -/
instance (n : Nat) : OfNat Dim n := ⟨fixed (.ofNat n)⟩

end Dim

/-- The declared name, element type and shape of a graph input or output. -/
structure ValueInfo where
  name : String
  type : ElementType
  shape : List Dim
deriving DecidableEq

/-- A value without dims. -/
def ValueInfo.scalar (name : String) (type : ElementType) : ValueInfo := ⟨name, type, []⟩

mutual

/-- The value of an attribute of a node. -/
inductive Attribute where
  | float (value : Binary32)
  | int (value : Int64)
  | string (value : String)
  | floats (values : List Binary32)
  | ints (values : List Int64)
  | strings (values : List String)
  | tensor (value : Tensor)
  | graph (body : Graph)

/-- An operation: an operator applied to named values, giving named values. The empty name stands
for an input or output that is left out. -/
structure Node where
  name : String
  opType : String
  inputs : List String
  outputs : List String
  attributes : List (String × Attribute)

/-- Nodes in order, with the values that the graph takes, gives and holds as constants. -/
structure Graph where
  name : String
  nodes : List Node
  inputs : List ValueInfo
  outputs : List ValueInfo
  initializers : List Tensor

end

namespace Attribute

/-- A double-precision value is kept as the nearest single-precision one. -/
def ofBinary64 (x : Binary64) : Attribute := float x.toBinary32

/-- A narrow integer is widened. -/
def ofInt32 (n : Int32) : Attribute := int n.toInt64

end Attribute

namespace Node

/-- A node without a name and without attributes. -/
def new (opType : String) (inputs outputs : List String) : Node := ⟨"", opType, inputs, outputs, []⟩

/-- The node under another name. -/
def named (name : String) (node : Node) : Node := { node with name }

/-- The node with an attribute set. -/
def attr (node : Node) (name : String) (value : Attribute) : Node :=
  { node with attributes := Table.insert name value node.attributes }

end Node

/-- The graph without nodes and values. -/
def Graph.empty (name : String) : Graph := ⟨name, [], [], [], []⟩

/-- The pieces of a graph, which has no name yet. -/
structure Parts where
  nodes : List Node
  inputs : List ValueInfo
  outputs : List ValueInfo
  initializers : List Tensor := []

/-- The graph of a name made of the pieces. -/
def Parts.toGraph (name : String) (parts : Parts) : Graph :=
  ⟨name, parts.nodes, parts.inputs, parts.outputs, parts.initializers⟩

/-- What a builder of pieces gives: the pieces, or why there are none. -/
abbrev Built : Type := Except (Fault TensorError) Parts

/-- A graph and the name of what produced it. -/
structure Model where
  graph : Graph
  producer : String

/-! ### Numeric equality -/

mutual

/-- Equal kinds and values, floats compared as numbers. -/
def Attribute.equals : Attribute → Attribute → Bool
  | .float x, .float y => x.equals y
  | .int x, .int y => x == y
  | .string x, .string y => x == y
  | .floats xs, .floats ys => xs.isEqv ys Binary32.equals
  | .ints xs, .ints ys => xs == ys
  | .strings xs, .strings ys => xs == ys
  | .tensor s, .tensor t => s.equals t
  | .graph g, .graph h => g.equals h
  | _, _ => false
termination_by structural a => a

/-- Equal names and values at every place of two attribute tables. -/
def Attribute.tablesEqual : List (String × Attribute) → List (String × Attribute) → Bool
  | [], [] => true
  | (n, a) :: rest, (m, b) :: rest' => n == m && a.equals b && Attribute.tablesEqual rest rest'
  | _, _ => false
termination_by structural table => table

/-- Equal fields, floats compared as numbers. -/
def Node.equals : Node → Node → Bool
  | ⟨name, opType, inputs, outputs, attributes⟩, other =>
    name == other.name && opType == other.opType && inputs == other.inputs &&
      outputs == other.outputs && Attribute.tablesEqual attributes other.attributes
termination_by structural n => n

/-- Equal nodes at every place of two lists. -/
def Node.listsEqual : List Node → List Node → Bool
  | [], [] => true
  | n :: rest, m :: rest' => n.equals m && Node.listsEqual rest rest'
  | _, _ => false
termination_by structural nodes => nodes

/-- Equal fields, floats compared as numbers. -/
def Graph.equals : Graph → Graph → Bool
  | ⟨name, nodes, inputs, outputs, initializers⟩, other =>
    name == other.name && Node.listsEqual nodes other.nodes && inputs == other.inputs &&
      outputs == other.outputs && initializers.isEqv other.initializers Tensor.equals
termination_by structural g => g

end

/-- Equal graphs and producers, floats compared as numbers. -/
def Model.equals (a b : Model) : Bool :=
  a.graph.equals b.graph && a.producer == b.producer

end OnnxCorpus
