import OnnxCorpus.Format.Schema
import OnnxCorpus.Scope

/-!
# Writing models

`encode` turns a model into the bytes of a file. It refuses a graph that breaks the scoping rules,
and then one with a part missing: a graph without a name, a node without an operator, an attribute
without a name, or an input or output whose element type is undefined. Every other model is
written, its fields in the order of their numbers.
-/

namespace OnnxCorpus

open Wire

/-- What a file needs and a graph does not have. -/
inductive Gap where
  | graphName
  | opType (outputs : List String)
  | attributeName (opType : String)
  | elementType (value : String)
deriving DecidableEq

/-- The text of a gap. -/
def Gap.message : Gap → String
  | graphName => "graph name must not be empty"
  | opType outputs => s!"node with outputs {Text.quotedList outputs} has no operator type"
  | attributeName operator => s!"{operator} node has an attribute without a name"
  | elementType value => s!"value '{value}' has an undefined element type"

/-- Why a model is not written. -/
inductive EncodeError where
  | invalid (cause : ScopeError)
  | incomplete (gap : Gap)
deriving DecidableEq

/-- The text of a refusal. -/
def EncodeError.message : EncodeError → String
  | invalid cause => "Invalid graph: " ++ cause.message
  | incomplete gap => "Serialization error: " ++ gap.message

/-! ### Gaps -/

/-- The gap of a value: its element type. -/
def ValueInfo.gap? (v : ValueInfo) : Option Gap :=
  if v.type = .undefined then some (.elementType v.name) else none

mutual

/-- The first gap of a graph: in its name, its nodes, its inputs or its outputs. -/
def Graph.gap? : Graph → Option Gap
  | ⟨name, nodes, inputs, outputs, _⟩ =>
    if name = "" then some .graphName
    else (Node.firstGap? nodes).or ((inputs ++ outputs).findSome? ValueInfo.gap?)
termination_by structural g => g

/-- The first gap among nodes. -/
def Node.firstGap? : List Node → Option Gap
  | [] => none
  | node :: rest => node.gap?.or (Node.firstGap? rest)
termination_by structural nodes => nodes

/-- The first gap of a node: in its operator or its attributes. -/
def Node.gap? : Node → Option Gap
  | ⟨_, opType, _, outputs, attributes⟩ =>
    if opType = "" then some (.opType outputs) else Attribute.firstGap? opType attributes
termination_by structural n => n

/-- The first gap among the attributes of a node with an operator. -/
def Attribute.firstGap? (opType : String) : List (String × Attribute) → Option Gap
  | [] => none
  | (name, value) :: rest =>
    if name = "" then some (.attributeName opType)
    else value.gap?.or (Attribute.firstGap? opType rest)
termination_by structural table => table

/-- The first gap of a body; other values have none. -/
def Attribute.gap? : Attribute → Option Gap
  | .graph body => body.gap?
  | .float _ | .int _ | .string _ | .floats _ | .ints _ | .strings _ | .tensor _ => none
termination_by structural a => a

end

/-! ### Fields -/

/-- The versions that a file declares: of the format, and of the default operator set. -/
structure Versions where
  ir : Int64 := 7
  opset : Int64 := 13
deriving DecidableEq

namespace Format

/-- A field of an integer, in two's complement. -/
def intField (number : Nat) (n : Int64) : Field := .scalar number (.varint n.toUInt64)

/-- A packed field, or no field for an empty list. -/
def packedField (number : Nat) (values : List Scalar) : List Field :=
  if values.isEmpty then [] else [.packed number values]

end Format

open Format

/-- The fields of a dim. An unknown one has none. -/
def Dim.toFields : Dim → List Field
  | .fixed size => [.scalar 1 (.varint size)]
  | .param name => [.text 2 name]
  | .unknown => []

/-- The fields of a value. -/
def ValueInfo.toFields (v : ValueInfo) : List Field :=
  [.text 1 v.name,
    .message 2 [.message 1 [intField 1 v.type.code.toInt64,
      .message 2 (v.shape.map fun d => .message 1 d.toFields)]]]

namespace Payload

/-- The fields of a payload whose number comes before that of the tensor's name. -/
def fieldsBeforeName : Payload → List Field
  | float values => packedField 4 (values.map fun x => .fixed32 x.bits)
  | int32 values => packedField 5 (values.map fun n => .varint n.toInt64.toUInt64)
  | string values => values.map (.bytes 6)
  | int64 values => packedField 7 (values.map fun n => .varint n.toUInt64)
  | raw _ | double _ | uint64 _ => []

/-- The fields of a payload whose number comes after that of the tensor's name. -/
def fieldsAfterName : Payload → List Field
  | raw bytes => [.bytes 9 bytes]
  | double values => packedField 10 (values.map fun x => .fixed64 x.bits)
  | uint64 values => packedField 11 (values.map .varint)
  | float _ | int32 _ | string _ | int64 _ => []

end Payload

/-- The fields of a tensor. -/
def Tensor.toFields (t : Tensor) : List Field :=
  t.dims.map (fun d => .scalar 1 (.varint d)) ++ [intField 2 t.type.code.toInt64] ++
    t.payload.fieldsBeforeName ++ [.text 8 t.name] ++ t.payload.fieldsAfterName

/-- The kinds of attribute that a file can hold and a model can. -/
inductive AttributeKind where
  | float
  | int
  | string
  | tensor
  | graph
  | floats
  | ints
  | strings
deriving DecidableEq

namespace AttributeKind

/-- Every kind of attribute. -/
def all : List AttributeKind := [float, int, string, tensor, graph, floats, ints, strings]

/-- The number that stands for a kind in a file. -/
def code : AttributeKind → Int32
  | float => 1
  | int => 2
  | string => 3
  | tensor => 4
  | graph => 5
  | floats => 6
  | ints => 7
  | strings => 8

/-- The kind that a number in a file stands for. -/
def ofCode? (n : Int32) : Option AttributeKind := all.find? (·.code = n)

@[simp] theorem ofCode?_code (k : AttributeKind) : ofCode? k.code = some k := by
  cases k <;> decide

theorem ofCode?_eq_some_iff {n : Int32} {k : AttributeKind} : ofCode? n = some k ↔ n = k.code := by
  constructor
  · intro h
    simpa [eq_comm] using List.find?_some h
  · rintro rfl
    exact ofCode?_code k

end AttributeKind

/-- The kind of an attribute. -/
def Attribute.kind : Attribute → AttributeKind
  | .float _ => .float
  | .int _ => .int
  | .string _ => .string
  | .floats _ => .floats
  | .ints _ => .ints
  | .strings _ => .strings
  | .tensor _ => .tensor
  | .graph _ => .graph

mutual

/-- The fields of a graph. -/
def Graph.toFields : Graph → List Field
  | ⟨name, nodes, inputs, outputs, initializers⟩ =>
    Node.listToFields nodes ++ [.text 2 name] ++
      initializers.map (fun t => .message 5 t.toFields) ++
      inputs.map (fun v => .message 11 v.toFields) ++
      outputs.map (fun v => .message 12 v.toFields)
termination_by structural g => g

/-- A field for each node of a graph. -/
def Node.listToFields : List Node → List Field
  | [] => []
  | node :: rest => .message 1 node.toFields :: Node.listToFields rest
termination_by structural nodes => nodes

/-- The fields of a node. An empty name is left out. -/
def Node.toFields : Node → List Field
  | ⟨name, opType, inputs, outputs, attributes⟩ =>
    inputs.map (.text 1) ++ outputs.map (.text 2) ++
      (if name = "" then [] else [.text 3 name]) ++ [.text 4 opType] ++
      Attribute.tableToFields attributes
termination_by structural n => n

/-- A field for each attribute of a node. -/
def Attribute.tableToFields : List (String × Attribute) → List Field
  | [] => []
  | (name, value) :: rest =>
    .message 5 ([.text 1 name] ++ value.toFields ++ [intField 20 value.kind.code.toInt64]) ::
      Attribute.tableToFields rest
termination_by structural table => table

/-- The fields of the value of an attribute. -/
def Attribute.toFields : Attribute → List Field
  | .float value => [.scalar 2 (.fixed32 value.bits)]
  | .int value => [intField 3 value]
  | .string value => [.bytes 4 (utf8 value)]
  | .tensor value => [.message 5 value.toFields]
  | .graph body => [.message 6 body.toFields]
  | .floats values => values.map fun x => .scalar 7 (.fixed32 x.bits)
  | .ints values => values.map (intField 8)
  | .strings values => values.map fun text => .bytes 9 (utf8 text)
termination_by structural a => a

end

/-- The fields of the operator set: the default domain with its version. -/
def Versions.toFields (v : Versions) : List Field := [.text 1 "", intField 2 v.opset]

/-- The fields of a model. -/
def Model.toFields (versions : Versions) (m : Model) : List Field :=
  [intField 1 versions.ir, .text 2 m.producer, .message 7 m.graph.toFields,
    .message 8 versions.toFields]

/-- The bytes of the file of a model. -/
def Model.encode (versions : Versions) (m : Model) : Except EncodeError (List UInt8) :=
  match m.graph.validate with
  | .error cause => .error (.invalid cause)
  | .ok () =>
    match m.graph.gap? with
    | some gap => .error (.incomplete gap)
    | none => .ok (Field.writeAll (m.toFields versions))

end OnnxCorpus
