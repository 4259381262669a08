import OnnxCorpus.Proofs.Format.Contents
import OnnxCorpus.Proofs.Format.Recursion
import OnnxCorpus.Proofs.Tensor.Construction

/-!
# When reading crashes

The one arithmetic that leaves its range while a model is read is the product of the dims of a
tensor. `Graph.Reaches` says which tensor messages a graph message leads to, at any depth, once all
that comes before them has been read, and reading crashes exactly if one of those has a type that
its payload fits, dims that are not negative, and a product that leaves 64 bits
(`Graph.ofFields_eq_crash_iff`).
-/

namespace OnnxCorpus

open Wire Format Fallible

variable {text : String} {fields : List Field}

/-! ### Steps that do not crash -/

namespace Format

theorem elementType_eq_ok_iff {number : Nat} {type : ElementType} :
    elementType number fields = .ok type ↔
      ElementType.ofCode? (int32 number fields) = some type := by
  cases found : ElementType.ofCode? (int32 number fields) <;> simp [elementType, found, refuse]

theorem elementType_ne_crash {number : Nat} : elementType number fields ≠ .error (.crash text) := by
  cases found : ElementType.ofCode? (int32 number fields) <;> simp [elementType, found, refuse]

theorem decodeText_ne_crash {bytes : List UInt8} : decodeText bytes ≠ .error (.crash text) := by
  unfold decodeText
  split <;> simp [refuse]

end Format

theorem ValueInfo.ofFields_ne_crash : ofFields fields ≠ .error (.crash text) := by
  unfold ofFields
  split
  · simp [refuse]
  · simp [bind_eq_error_iff, elementType_ne_crash]

theorem Tensor.readDims_ne_crash {name : String} {dims : List UInt64} :
    readDims name dims ≠ .error (.crash text) := by
  induction dims with
  | nil => simp [readDims]
  | cons d rest ih =>
    rw [readDims]
    split
    · simp [refuse]
    · simp [bind_eq_error_iff, ih]

/-! ### Tensors -/

namespace Tensor

/-- The message of a tensor gives it a type that its payload fits and dims that are not negative,
but that no 64 bits can count. -/
def Overflows (fields : List Field) : Prop :=
  ∃ type, ElementType.ofCode? (int32 2 fields) = some type ∧
    (Payload.ofFields type fields).storage.accepts type ∧
    (∀ d ∈ Content.varints 1 fields, IsSigned d) ∧ ProductOverflows (Content.varints 1 fields)

theorem ofFields_eq_crash_iff :
    ofFields fields = .error (.crash text) ↔ text = Fault.overflow ∧ Overflows fields := by
  have built (name : String) (type : ElementType) (dims : List UInt64) (payload : Payload) :
      (new name type dims payload).mapError (Fault.map DecodeError.tensor) =
          .error (.crash text) ↔ new name type dims payload = .error (.crash text) := by
    rcases new name type dims payload with (_ | _) | _ <;> simp [Except.mapError, Fault.map]
  simp only [ofFields, bind_eq_error_iff, elementType_ne_crash, elementType_eq_ok_iff, false_or,
    readDims_ne_crash, readDims_eq_ok_iff, built, new_eq_crash_iff, Overflows]
  grind

end Tensor

/-! ### Attributes and nodes -/

section

variable {body : List Field → Decoded Graph}

theorem Attribute.entryWith_eq_crash_iff :
    entryWith body fields = .error (.crash text) ↔
      (AttributeKind.ofCode? (int32 20 fields) = some .tensor ∧ ∃ tensor,
        Content.message? 5 fields = some tensor ∧ Tensor.ofFields tensor = .error (.crash text)) ∨
      (AttributeKind.ofCode? (int32 20 fields) = some .graph ∧ ∃ graph,
        Content.message? 6 fields = some graph ∧ body graph = .error (.crash text)) := by
  have value : entryWith body fields = .error (.crash text) ↔
      ofFieldsWith body (Content.text 1 fields) fields = .error (.crash text) := by
    simp [entryWith, bind_eq_error_iff]
  rw [value, ofFieldsWith]
  cases AttributeKind.ofCode? (int32 20 fields) with
  | none => simp [refuse]
  | some kind =>
    cases kind with
    | float | int | floats | ints => simp
    | string => simp [bind_eq_error_iff, decodeText_ne_crash]
    | strings => simp [bind_eq_error_iff, mapM_eq_error_iff, decodeText_ne_crash]
    | tensor => cases Content.message? 5 fields <;> simp [refuse, bind_eq_error_iff]
    | graph => cases Content.message? 6 fields <;> simp [refuse, bind_eq_error_iff]

theorem Node.ofFieldsWith_eq_crash_iff :
    ofFieldsWith body fields = .error (.crash text) ↔
      ∃ entry, Reached (Attribute.entryWith body) (Content.messages 5 fields) entry ∧
        Attribute.entryWith body entry = .error (.crash text) := by
  simp [ofFieldsWith, bind_eq_error_iff, mapM_eq_error_iff]

theorem Graph.ofFieldsWith_eq_crash_iff :
    ofFieldsWith body fields = .error (.crash text) ↔
      (∃ node, Reached (Node.ofFieldsWith body) (Content.messages 1 fields) node ∧
        Node.ofFieldsWith body node = .error (.crash text)) ∨
      ((∃ nodes, (Content.messages 1 fields).mapM (Node.ofFieldsWith body) = .ok nodes) ∧
        (∃ inputs, (Content.messages 11 fields).mapM ValueInfo.ofFields = .ok inputs) ∧
        (∃ outputs, (Content.messages 12 fields).mapM ValueInfo.ofFields = .ok outputs) ∧
        ∃ tensor, Reached Tensor.ofFields (Content.messages 5 fields) tensor ∧
          Tensor.ofFields tensor = .error (.crash text)) := by
  simp [ofFieldsWith, bind_eq_error_iff, mapM_eq_error_iff, ValueInfo.ofFields_ne_crash]

end

/-! ### Graphs -/

namespace Graph

/-- Reading the message of a graph comes to the message of an attribute of one of its nodes. -/
def ReachesAttribute (fields entry : List Field) : Prop :=
  ∃ node, Reached (Node.ofFieldsWith ofFields) (Content.messages 1 fields) node ∧
    Reached (Attribute.entryWith ofFields) (Content.messages 5 node) entry

/-- Reading the message of a graph comes to the message of a tensor: of an initializer, once all
else is read, or in an attribute of the graph or of a body. -/
inductive Reaches : List Field → List Field → Prop
  | ofInitializer {fields tensor nodes inputs outputs} :
      (Content.messages 1 fields).mapM (Node.ofFieldsWith ofFields) = .ok nodes →
      (Content.messages 11 fields).mapM ValueInfo.ofFields = .ok inputs →
      (Content.messages 12 fields).mapM ValueInfo.ofFields = .ok outputs →
      Reached Tensor.ofFields (Content.messages 5 fields) tensor →
      Reaches fields tensor
  | ofAttribute {fields entry tensor} :
      ReachesAttribute fields entry →
      AttributeKind.ofCode? (int32 20 entry) = some .tensor →
      Content.message? 5 entry = some tensor →
      Reaches fields tensor
  | ofBody {fields entry content tensor} :
      ReachesAttribute fields entry →
      AttributeKind.ofCode? (int32 20 entry) = some .graph →
      Content.message? 6 entry = some content →
      Reaches content tensor →
      Reaches fields tensor

/-- The two ways to crash: in an attribute, and in an initializer once all else is read. -/
theorem ofFields_eq_crash_cases :
    ofFields fields = .error (.crash text) ↔
      (∃ entry, ReachesAttribute fields entry ∧
        Attribute.entryWith ofFields entry = .error (.crash text)) ∨
      ((∃ nodes, (Content.messages 1 fields).mapM (Node.ofFieldsWith ofFields) = .ok nodes) ∧
        (∃ inputs, (Content.messages 11 fields).mapM ValueInfo.ofFields = .ok inputs) ∧
        (∃ outputs, (Content.messages 12 fields).mapM ValueInfo.ofFields = .ok outputs) ∧
        ∃ tensor, Reached Tensor.ofFields (Content.messages 5 fields) tensor ∧
          Tensor.ofFields tensor = .error (.crash text)) := by
  rw [ofFields_eq, ofFieldsWith_eq_crash_iff]
  simp only [Node.ofFieldsWith_eq_crash_iff, ReachesAttribute]
  grind

theorem ofFields_eq_crash_of_reaches {tensor : List Field} (reaches : Reaches fields tensor)
    (overflows : Tensor.Overflows tensor) : ofFields fields = .error (.crash Fault.overflow) := by
  have crash := Tensor.ofFields_eq_crash_iff.2 ⟨rfl, overflows⟩
  induction reaches with
  | ofInitializer nodes inputs outputs reached =>
    exact ofFields_eq_crash_cases.2
      (.inr ⟨⟨_, nodes⟩, ⟨_, inputs⟩, ⟨_, outputs⟩, _, reached, crash⟩)
  | ofAttribute reached kind content =>
    exact ofFields_eq_crash_cases.2
      (.inl ⟨_, reached, Attribute.entryWith_eq_crash_iff.2 (.inl ⟨kind, _, content, crash⟩)⟩)
  | ofBody reached kind content _ ih =>
    exact ofFields_eq_crash_cases.2 (.inl ⟨_, reached, Attribute.entryWith_eq_crash_iff.2
      (.inr ⟨kind, _, content, ih overflows crash⟩)⟩)

theorem reaches_of_ofFields_eq_crash {text : String} {fields : List Field}
    (crashed : ofFields fields = .error (.crash text)) :
    text = Fault.overflow ∧ ∃ tensor, Reaches fields tensor ∧ Tensor.Overflows tensor := by
  rcases ofFields_eq_crash_cases.1 crashed with ⟨entry, reached, failed⟩ |
    ⟨⟨_, nodes⟩, ⟨_, inputs⟩, ⟨_, outputs⟩, tensor, reached, failed⟩
  · rcases Attribute.entryWith_eq_crash_iff.1 failed with ⟨kind, tensor, content, failed⟩ |
      ⟨kind, content, found, failed⟩
    · obtain ⟨same, overflows⟩ := Tensor.ofFields_eq_crash_iff.1 failed
      exact ⟨same, tensor, .ofAttribute reached kind content, overflows⟩
    · obtain ⟨same, tensor, reaches, overflows⟩ := reaches_of_ofFields_eq_crash failed
      exact ⟨same, tensor, .ofBody reached kind found reaches, overflows⟩
  · obtain ⟨same, overflows⟩ := Tensor.ofFields_eq_crash_iff.1 failed
    exact ⟨same, tensor, .ofInitializer nodes inputs outputs reached, overflows⟩
termination_by Field.maxHeight fields
decreasing_by
  -- Around the message of a body stand those of its attribute, its node and the graph.
  obtain ⟨node, among, held⟩ := reached
  have := Content.maxHeight_lt_of_mem_messages among.mem
  have := Content.maxHeight_lt_of_mem_messages held.mem
  have := Content.maxHeight_lt_of_message? found
  omega

/-- Reading the message of a graph crashes exactly if it comes to a tensor that overflows. -/
theorem ofFields_eq_crash_iff :
    ofFields fields = .error (.crash text) ↔
      text = Fault.overflow ∧ ∃ tensor, Reaches fields tensor ∧ Tensor.Overflows tensor := by
  constructor
  · exact reaches_of_ofFields_eq_crash
  · rintro ⟨rfl, tensor, reaches, overflows⟩
    exact ofFields_eq_crash_of_reaches reaches overflows

end Graph

/-! ### Models -/

namespace Model

/-- Bytes whose graph message leads to a tensor that overflows. -/
def Overflows (bytes : List UInt8) : Prop :=
  ∃ fields graph tensor, Field.parse schema maxDepth .model bytes = .ok fields ∧
    Content.message? 7 fields = some graph ∧ Graph.Reaches graph tensor ∧ Tensor.Overflows tensor

theorem decode_eq_crash_iff {bytes : List UInt8} :
    decode bytes = .error (.crash text) ↔ text = Fault.overflow ∧ Overflows bytes := by
  rw [decode]
  cases parsed : Field.parse schema maxDepth .model bytes with
  | error cause => simp [refuse, Overflows, parsed]
  | ok fields =>
    cases found : Content.message? 7 fields with
    | none => simp [ofFields, found, refuse, Overflows, parsed]
    | some graph =>
      simp [ofFields, found, bind_eq_error_iff, Graph.ofFields_eq_crash_iff, Overflows, parsed]

end Model

end OnnxCorpus
