import OnnxCorpus.Wire.Schema

/-!
# The messages of a model file

The types of message in an ONNX file and their fields. A name that the declaration language
reserves keeps its mark in messages (`r#type`), and the two alternatives of a dimension share one
name, as does the single alternative of a type.
-/

namespace OnnxCorpus.Format

open Wire

/-- The types of message. -/
inductive MessageType where
  | model
  | operatorSet
  | graph
  | node
  | attribute
  | valueInfo
  | valueType
  | tensorType
  | shape
  | dimension
  | tensor
deriving DecidableEq

namespace MessageType

/-- The name of a message type in messages. -/
def name : MessageType → String
  | .model => "ModelProto"
  | .operatorSet => "OperatorSetIdProto"
  | .graph => "GraphProto"
  | .node => "NodeProto"
  | .attribute => "AttributeProto"
  | .valueInfo => "ValueInfoProto"
  | .valueType => "TypeProto"
  | .tensorType => "Tensor"
  | .shape => "TensorShapeProto"
  | .dimension => "Dimension"
  | .tensor => "TensorProto"

/-- The fields of a message type, by number. -/
def field? : MessageType → Nat → Option (FieldSpec MessageType)
  | .model, 1 => some ⟨"ir_version", .scalar .varint⟩
  | .model, 2 => some ⟨"producer_name", .text⟩
  | .model, 3 => some ⟨"producer_version", .text⟩
  | .model, 4 => some ⟨"domain", .text⟩
  | .model, 5 => some ⟨"model_version", .scalar .varint⟩
  | .model, 6 => some ⟨"doc_string", .text⟩
  | .model, 7 => some ⟨"graph", .message .graph⟩
  | .model, 8 => some ⟨"opset_import", .message .operatorSet⟩
  | .operatorSet, 1 => some ⟨"domain", .text⟩
  | .operatorSet, 2 => some ⟨"version", .scalar .varint⟩
  | .graph, 1 => some ⟨"node", .message .node⟩
  | .graph, 2 => some ⟨"name", .text⟩
  | .graph, 5 => some ⟨"initializer", .message .tensor⟩
  | .graph, 10 => some ⟨"doc_string", .text⟩
  | .graph, 11 => some ⟨"input", .message .valueInfo⟩
  | .graph, 12 => some ⟨"output", .message .valueInfo⟩
  | .graph, 13 => some ⟨"value_info", .message .valueInfo⟩
  | .node, 1 => some ⟨"input", .text⟩
  | .node, 2 => some ⟨"output", .text⟩
  | .node, 3 => some ⟨"name", .text⟩
  | .node, 4 => some ⟨"op_type", .text⟩
  | .node, 5 => some ⟨"attribute", .message .attribute⟩
  | .node, 6 => some ⟨"doc_string", .text⟩
  | .node, 7 => some ⟨"domain", .text⟩
  | .attribute, 1 => some ⟨"name", .text⟩
  | .attribute, 2 => some ⟨"f", .scalar .fixed32⟩
  | .attribute, 3 => some ⟨"i", .scalar .varint⟩
  | .attribute, 4 => some ⟨"s", .bytes⟩
  | .attribute, 5 => some ⟨"t", .message .tensor⟩
  | .attribute, 6 => some ⟨"g", .message .graph⟩
  | .attribute, 7 => some ⟨"floats", .scalars .fixed32⟩
  | .attribute, 8 => some ⟨"ints", .scalars .varint⟩
  | .attribute, 9 => some ⟨"strings", .bytes⟩
  | .attribute, 10 => some ⟨"tensors", .message .tensor⟩
  | .attribute, 11 => some ⟨"graphs", .message .graph⟩
  | .attribute, 13 => some ⟨"doc_string", .text⟩
  | .attribute, 20 => some ⟨"r#type", .scalar .varint⟩
  | .attribute, 21 => some ⟨"ref_attr_name", .text⟩
  | .valueInfo, 1 => some ⟨"name", .text⟩
  | .valueInfo, 2 => some ⟨"r#type", .message .valueType⟩
  | .valueInfo, 3 => some ⟨"doc_string", .text⟩
  | .valueType, 1 => some ⟨"value", .message .tensorType⟩
  | .valueType, 6 => some ⟨"denotation", .text⟩
  | .tensorType, 1 => some ⟨"elem_type", .scalar .varint⟩
  | .tensorType, 2 => some ⟨"shape", .message .shape⟩
  | .shape, 1 => some ⟨"dim", .message .dimension⟩
  | .dimension, 1 => some ⟨"value", .scalar .varint⟩
  | .dimension, 2 => some ⟨"value", .text⟩
  | .dimension, 3 => some ⟨"denotation", .text⟩
  | .tensor, 1 => some ⟨"dims", .scalars .varint⟩
  | .tensor, 2 => some ⟨"data_type", .scalar .varint⟩
  | .tensor, 4 => some ⟨"float_data", .scalars .fixed32⟩
  | .tensor, 5 => some ⟨"int32_data", .scalars .varint⟩
  | .tensor, 6 => some ⟨"string_data", .bytes⟩
  | .tensor, 7 => some ⟨"int64_data", .scalars .varint⟩
  | .tensor, 8 => some ⟨"name", .text⟩
  | .tensor, 9 => some ⟨"raw_data", .bytes⟩
  | .tensor, 10 => some ⟨"double_data", .scalars .fixed64⟩
  | .tensor, 11 => some ⟨"uint64_data", .scalars .varint⟩
  | .tensor, 12 => some ⟨"doc_string", .text⟩
  | _, _ => none

end MessageType

/-- The schema of a model file. -/
def schema : Schema MessageType := ⟨MessageType.name, MessageType.field?⟩

/-- How deep messages nest in a file that is accepted. -/
def maxDepth : Nat := 100

end OnnxCorpus.Format
