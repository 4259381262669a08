import OnnxCorpus.Format.Encode
import OnnxCorpus.Wire.Content
import OnnxCorpus.Wire.Reader

/-!
# Reading models

`decode` turns the bytes of a file into a model: the bytes into the fields of a message, and those
into a graph, its nodes first, then its inputs, outputs and initializers. Absent texts read as
empty and absent or negative sizes as unknown, and of two attributes of one name the later stays.
Tensors are built by `Tensor.new`, so a crash of its arithmetic is one of the outcomes.
-/

namespace OnnxCorpus

open Wire

/-- Why bytes are not a model. -/
inductive DecodeError where
  | malformed (cause : Malformed)
  | noGraph
  | noTensor (owner : String)
  | noBody (owner : String)
  | notATensor (value : String)
  | negativeDim (tensor : String) (size : Int64)
  | tensor (cause : TensorError)
  | text (cause : Utf8Fault)
  | unsupportedElement (code : Int32)
  | unsupportedAttribute (name : String) (code : Int32)
deriving DecidableEq

/-- The text of a refusal. -/
def DecodeError.message : DecodeError → String
  | malformed cause =>
    "Invalid format: failed to decode Protobuf message: " ++ cause.message
  | noGraph => "Invalid format: model has no graph"
  | noTensor owner => s!"Invalid format: attribute '{owner}' has no tensor"
  | noBody owner => s!"Invalid format: attribute '{owner}' has no graph"
  | notATensor value => s!"Invalid format: value '{value}' is not a tensor"
  | negativeDim name size => s!"Invalid format: tensor '{name}' has negative dim {size.toInt}"
  | tensor cause => "Invalid format: " ++ cause.message
  | text cause => "Invalid format: " ++ cause.message
  | unsupportedElement code => s!"Unsupported element type code: {code.toInt}"
  | unsupportedAttribute name code => s!"Unsupported attribute '{name}' of type {code.toInt}"

/-- A value, or why there is none. -/
abbrev Decoded (α : Type) : Type := Except (Fault DecodeError) α

namespace Format

/-- The refusal of bytes for a cause. -/
def refuse {α : Type} (cause : DecodeError) : Decoded α := .error (.error cause)

/-- A number of 32 bits: the low half of the one in the file, and zero if there is none. -/
def int32 (number : Nat) (fields : List Field) : Int32 :=
  ((Content.varint? number fields).getD 0).toUInt32.toInt32

/-- The element type that a field holds the code of. -/
def elementType (number : Nat) (fields : List Field) : Decoded ElementType :=
  let code := int32 number fields
  match ElementType.ofCode? code with
  | some type => .ok type
  | none => refuse (.unsupportedElement code)

/-- The text that bytes spell. -/
def decodeText (bytes : List UInt8) : Decoded String :=
  match ofUtf8? bytes with
  | some text => .ok text
  | none => refuse (.text ((Utf8Fault.locate bytes).getD (.incomplete bytes.length)))

end Format

open Format

/-! ### Values and tensors -/

/-- What the last alternative in a list of fields says of a dimension. -/
def Dim.ofField? : Field → Option Dim
  | .scalar 1 (.varint n) => some (.ofInt64 n.toInt64)
  | .text 2 name => some (.param name)
  | _ => none

/-- The later of two alternatives replaces the earlier one. -/
def Dim.ofFields (fields : List Field) : Dim :=
  (fields.filterMap Dim.ofField?).getLast?.getD .unknown

/-- The value that fields describe. Values other than tensors are refused. -/
def ValueInfo.ofFields (fields : List Field) : Decoded ValueInfo :=
  let name := Content.text 1 fields
  match (Content.message? 2 fields).bind (Content.message? 1) with
  | none => refuse (.notATensor name)
  | some tensorType => do
    let shape := (Content.messages 1 ((Content.message? 2 tensorType).getD [])).map Dim.ofFields
    let type ← elementType 1 tensorType
    .ok ⟨name, type, shape⟩

/-- Sizes, none of which may be negative. -/
def Tensor.readDims (name : String) : List UInt64 → Decoded (List UInt64)
  | [] => .ok []
  | d :: rest =>
    if d.toInt64 < 0 then refuse (.negativeDim name d.toInt64)
    else do
      let rest ← readDims name rest
      .ok (d :: rest)

/-- Raw bytes come before the storage of the element type. -/
def Payload.ofFields (type : ElementType) (fields : List Field) : Payload :=
  match Content.bytes? 9 fields with
  | some bytes => .raw bytes
  | none =>
    match type with
    | .f32 => .float ((Content.fixed32s 4 fields).map Binary32.mk)
    | .f64 => .double ((Content.fixed64s 10 fields).map Binary64.mk)
    | .i64 => .int64 ((Content.varints 7 fields).map UInt64.toInt64)
    | .u32 | .u64 => .uint64 (Content.varints 11 fields)
    | .string => .string (Content.byteStrings 6 fields)
    | .undefined | .u8 | .i8 | .u16 | .i16 | .i32 | .bool | .f16 | .bf16 =>
      .int32 ((Content.varints 5 fields).map fun n => n.toUInt32.toInt32)

/-- The tensor that fields describe, with the checks that a new tensor gets. -/
def Tensor.ofFields (fields : List Field) : Decoded Tensor := do
  let name := Content.text 8 fields
  let type ← elementType 2 fields
  let dims ← Tensor.readDims name (Content.varints 1 fields)
  (Tensor.new name type dims (Payload.ofFields type fields)).mapError (Fault.map .tensor)

/-! ### Attributes, nodes and graphs -/

/-- The value of an attribute, whose body, if it has one, is read by `body`. -/
def Attribute.ofFieldsWith (body : List Field → Decoded Graph) (name : String)
    (fields : List Field) : Decoded Attribute :=
  match AttributeKind.ofCode? (int32 20 fields) with
  | none => refuse (.unsupportedAttribute name (int32 20 fields))
  | some .float => .ok (.float ⟨(Content.fixed32? 2 fields).getD 0⟩)
  | some .int => .ok (.int ((Content.varint? 3 fields).getD 0).toInt64)
  | some .string => do
    let text ← decodeText ((Content.bytes? 4 fields).getD [])
    .ok (.string text)
  | some .floats => .ok (.floats ((Content.fixed32s 7 fields).map Binary32.mk))
  | some .ints => .ok (.ints ((Content.varints 8 fields).map UInt64.toInt64))
  | some .strings => do
    let texts ← (Content.byteStrings 9 fields).mapM decodeText
    .ok (.strings texts)
  | some .tensor =>
    match Content.message? 5 fields with
    | none => refuse (.noTensor name)
    | some content => do
      let value ← Tensor.ofFields content
      .ok (.tensor value)
  | some .graph =>
    match Content.message? 6 fields with
    | none => refuse (.noBody name)
    | some content => do
      let value ← body content
      .ok (.graph value)

/-- An attribute and its name. -/
def Attribute.entryWith (body : List Field → Decoded Graph) (fields : List Field) :
    Decoded (String × Attribute) := do
  let name := Content.text 1 fields
  let value ← Attribute.ofFieldsWith body name fields
  .ok (name, value)

/-- The node that fields describe, its bodies read by `body`. -/
def Node.ofFieldsWith (body : List Field → Decoded Graph) (fields : List Field) :
    Decoded Node := do
  let attributes ← (Content.messages 5 fields).mapM (Attribute.entryWith body)
  .ok ⟨Content.text 3 fields, Content.text 4 fields, Content.texts 1 fields,
    Content.texts 2 fields, Table.ofList attributes⟩

/-- The graph that fields describe, the bodies of its nodes read by `body`. -/
def Graph.ofFieldsWith (body : List Field → Decoded Graph) (fields : List Field) :
    Decoded Graph := do
  let nodes ← (Content.messages 1 fields).mapM (Node.ofFieldsWith body)
  let inputs ← (Content.messages 11 fields).mapM ValueInfo.ofFields
  let outputs ← (Content.messages 12 fields).mapM ValueInfo.ofFields
  let initializers ← (Content.messages 5 fields).mapM Tensor.ofFields
  .ok ⟨Content.text 2 fields, nodes, inputs, outputs, initializers⟩

/-- A graph in which bodies nest less than `depth` deep. -/
def Graph.ofFieldsWithin : Nat → List Field → Decoded Graph
  | 0, _ => refuse .noGraph
  | depth + 1, fields => Graph.ofFieldsWith (Graph.ofFieldsWithin depth) fields

/-- The graph of a message. Its bodies nest less deep than its messages do. -/
def Graph.ofFields (fields : List Field) : Decoded Graph :=
  Graph.ofFieldsWithin (Field.maxHeight fields + 1) fields

/-- The model that fields describe. A file without a graph is refused. -/
def Model.ofFields (fields : List Field) : Decoded Model :=
  match Content.message? 7 fields with
  | none => refuse .noGraph
  | some graph => do
    let graph ← Graph.ofFields graph
    .ok ⟨graph, Content.text 2 fields⟩

/-- The model in the bytes of a file. -/
def Model.decode (bytes : List UInt8) : Decoded Model :=
  match Field.parse schema maxDepth .model bytes with
  | .error cause => refuse (.malformed cause)
  | .ok fields => Model.ofFields fields

end OnnxCorpus
