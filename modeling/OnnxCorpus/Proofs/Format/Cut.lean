import OnnxCorpus.Proofs.Format.RoundTrip
import OnnxCorpus.Proofs.Wire.Cut

/-!
# Files that are cut short

The operator sets are the last record of a written file, and the graph is the one before it. A file
that is cut between the two is read as the whole file is; cut anywhere else, it is refused for its
format (`Model.decode_cut`).
-/

namespace OnnxCorpus

open Wire Format Fallible

/-! ### What a written file is refused for -/

/-- The bytes are not those of a model file: no crash, and nothing that a model file may hold and
a model may not. -/
def IsInvalidFormat : Fault DecodeError → Prop
  | .error (.unsupportedElement _) | .error (.unsupportedAttribute ..) | .crash _ => False
  | .error _ => True

/-- A text that reports an invalid format. -/
def ReportsFormat (text : String) : Prop := ∃ detail, text = "Invalid format: " ++ detail

theorem ReportsFormat.append {text : String} (invalid : ReportsFormat text) (more : String) :
    ReportsFormat (text ++ more) := by
  obtain ⟨detail, rfl⟩ := invalid
  exact ⟨detail ++ more, String.append_assoc⟩

theorem ReportsFormat.head?_toList {text : String} (invalid : ReportsFormat text) :
    text.toList.head? = some 'I' := by
  obtain ⟨detail, rfl⟩ := invalid
  rw [String.toList_append, List.head?_append]
  rfl

/-- An error is about the format exactly if its text says so. -/
theorem isInvalidFormat_iff {cause : DecodeError} :
    IsInvalidFormat (.error cause) ↔ ReportsFormat cause.message := by
  constructor
  · intro invalid
    cases cause with
    | malformed _ => exact ReportsFormat.append ⟨"failed to decode Protobuf message: ", by decide⟩ _
    | noGraph => exact ⟨"model has no graph", by decide⟩
    | noTensor _ | noBody _ => exact (ReportsFormat.append ⟨"attribute '", by decide⟩ _).append _
    | notATensor _ => exact (ReportsFormat.append ⟨"value '", by decide⟩ _).append _
    | negativeDim _ _ =>
      exact ((ReportsFormat.append ⟨"tensor '", by decide⟩ _).append _).append _
    | tensor cause => exact ⟨_, rfl⟩
    | text cause => exact ⟨_, rfl⟩
    | unsupportedElement _ => cases invalid
    | unsupportedAttribute _ _ => cases invalid
  · intro invalid
    have first := invalid.head?_toList
    cases cause with
    | unsupportedElement code =>
      have other : ("Unsupported element type code: " ++ toString code.toInt).toList.head? =
          some 'U' := by
        rw [String.toList_append, List.head?_append]
        rfl
      exact absurd (first.symm.trans other) (by decide)
    | unsupportedAttribute name code =>
      have other : ("Unsupported attribute '" ++ name ++ "' of type " ++
          toString code.toInt).toList.head? = some 'U' := by
        rw [String.toList_append, String.toList_append, String.toList_append, List.head?_append,
          List.head?_append, List.head?_append]
        rfl
      exact absurd (first.symm.trans other) (by decide)
    | _ => trivial

/-- A dim is below zero. -/
def IsNegativeDim : Fault DecodeError → Prop
  | .error (.negativeDim ..) => True
  | _ => False

theorem IsNegativeDim.isInvalidFormat {fault : Fault DecodeError} (negative : IsNegativeDim fault) :
    IsInvalidFormat fault := by
  rcases fault with ⟨_ | _⟩ | _ <;> trivial

namespace Tensor

theorem readDims_failsOnly {name : String} {dims : List UInt64} :
    FailsOnly IsNegativeDim (readDims name dims) := by
  induction dims with
  | nil => exact failsOnly_ok []
  | cons d rest ih =>
    rw [readDims]
    split
    · exact failsOnly_error trivial
    · exact ih.bind fun _ _ => failsOnly_ok _

theorem ofFields_toFields_failsOnly {t : Tensor} (checked : t.IsChecked) :
    FailsOnly IsNegativeDim (ofFields t.toFields) := by
  rw [ofFields]
  simp only [text_toFields, elementType_toFields, ok_bind, dims_toFields,
    payload_ofFields_toFields checked.accepts]
  refine readDims_failsOnly.bind fun dims read => ?_
  obtain ⟨-, rfl⟩ := readDims_eq_ok_iff.1 read
  rw [checked]
  exact failsOnly_ok t

end Tensor

section

variable {body : List Field → Decoded Graph}

theorem Attribute.entryWith_toFields_failsOnly {entry : String × Attribute}
    (checked : ∀ t, entry.2.tensor? = some t → t.IsChecked)
    (step : ∀ b, entry.2.body? = some b → FailsOnly IsNegativeDim (body b.toFields)) :
    FailsOnly IsNegativeDim (entryWith body (entryToFields entry)) := by
  obtain ⟨name, value⟩ := entry
  rw [entryWith, text_entryToFields]
  refine FailsOnly.bind ?_ fun _ _ => failsOnly_ok _
  cases value with
  | tensor t =>
    simp only [ofFieldsWith, kind_entryToFields, AttributeKind.ofCode?_code, Attribute.kind,
      message?_entryToFields_tensor]
    exact (Tensor.ofFields_toFields_failsOnly (checked t rfl)).bind fun _ _ => failsOnly_ok _
  | graph b =>
    simp only [ofFieldsWith, kind_entryToFields, AttributeKind.ofCode?_code, Attribute.kind,
      message?_entryToFields_graph]
    exact (step b rfl).bind fun _ _ => failsOnly_ok _
  | float _ | int _ | string _ | floats _ | ints _ | strings _ =>
    rw [(ofFieldsWith_toFields_iff (p := fun _ => True) checked (by rintro _ ⟨⟩)).2
      ⟨⟨by rintro _ ⟨⟩, fun _ _ => trivial⟩, rfl⟩]
    exact failsOnly_ok _

theorem Node.ofFieldsWith_toFields_failsOnly {node : Node}
    (checked : ∀ t ∈ node.tensors, t.IsChecked)
    (step : ∀ b ∈ node.bodies, FailsOnly IsNegativeDim (body b.toFields)) :
    FailsOnly IsNegativeDim (ofFieldsWith body node.toFields) := by
  rw [ofFieldsWith, messages_toFields]
  refine FailsOnly.bind ?_ fun _ _ => failsOnly_ok _
  refine failsOnly_mapM (List.forall_mem_map.2 fun entry among => ?_)
  exact Attribute.entryWith_toFields_failsOnly
    (fun t held => checked t (List.mem_filterMap.2 ⟨entry, among, held⟩))
    fun b held => step b (List.mem_filterMap.2 ⟨entry, among, held⟩)

end

/-- Reading back a graph fails for nothing but a dim that is too large to be a signed number. -/
theorem Graph.ofFields_toFields_failsOnly {g : Graph} (formed : g.Everywhere Graph.IsFormed) :
    FailsOnly IsNegativeDim (ofFields g.toFields) := by
  induction g using Graph.inductionOnBodies with
  | step g ih =>
    obtain ⟨here, inside⟩ := Graph.everywhere_iff.1 formed
    have node (n) (among : n ∈ g.nodes) :
        FailsOnly IsNegativeDim (Node.ofFieldsWith ofFields n.toFields) := by
      refine Node.ofFieldsWith_toFields_failsOnly (fun t held => here.tensors t ?_) fun b held => ?_
      · exact List.mem_append_right _ (List.mem_flatMap.2 ⟨n, among, held⟩)
      · have member : b ∈ g.bodies := List.mem_flatMap.2 ⟨n, among, held⟩
        exact ih b member (inside b member)
    have initializer (t) (among : t ∈ g.initializers) :=
      Tensor.ofFields_toFields_failsOnly (here.tensors t (List.mem_append_left _ among))
    obtain ⟨nodes, tensors, inputs, outputs⟩ := messages_toFields_parts g
    rw [Graph.ofFields_eq, ofFieldsWith, nodes, tensors, inputs, outputs,
      ValueInfo.mapM_ofFields_toFields, ValueInfo.mapM_ofFields_toFields]
    refine (failsOnly_mapM (List.forall_mem_map.2 node)).bind fun _ _ => ?_
    refine (failsOnly_mapM (List.forall_mem_map.2 initializer)).bind fun _ _ => ?_
    exact failsOnly_ok _

/-! ### The last record -/

/-- The record of the operator sets. -/
def Versions.record (v : Versions) : Field := .message 8 v.toFields

theorem Versions.record_readable (v : Versions) :
    v.record.height ≤ maxDepth ∧ v.record.valueLength < UInt64.size := by
  have domain : (Field.text 1 "").write = [10, 0] := by decide +kernel
  have key : writeKey 2 .varint = [16] := by decide +kernel
  have opset : (Varint.write v.opset.toUInt64.toNat).length ≤ 9 + 1 :=
    Varint.length_write_le (by have := v.opset.toUInt64.toNat_lt; omega)
  have version : (intField 2 v.opset).write = 16 :: Varint.write v.opset.toUInt64.toNat := by
    show writeKey 2 .varint ++ _ = _
    rw [key]
    rfl
  have length : v.record.valueLength = 3 + (Varint.write v.opset.toUInt64.toNat).length := by
    show (Field.writeAll [.text 1 "", intField 2 v.opset]).length = _
    rw [Field.writeAll, Field.writeAll, Field.writeAll, domain, version]
    simp only [List.length_append, List.length_cons, List.length_nil]
    omega
  refine ⟨?_, ?_⟩
  · show 1 ≤ 100
    decide
  · rw [length, UInt64.size]
    omega

namespace Model

variable {versions : Versions} {m read : Model} {bytes cut : List UInt8}

/-- The records of a file before that of the operator sets. -/
def recordsBefore (versions : Versions) (m : Model) : List Field :=
  [intField 1 versions.ir, .text 2 m.producer, .message 7 m.graph.toFields]

theorem toFields_eq : m.toFields versions = m.recordsBefore versions ++ [versions.record] := rfl

/-- No more is read of a model than what stands before the operator sets. -/
theorem ofFields_recordsBefore :
    ofFields (m.recordsBefore versions) = ofFields (m.toFields versions) := by
  have graph : Content.message? 7 (m.toFields versions) =
      Content.message? 7 (m.recordsBefore versions) := rfl
  have producer : Content.text 2 (m.toFields versions) =
      Content.text 2 (m.recordsBefore versions) := rfl
  rw [ofFields, ofFields, graph, producer]

theorem decode_recordsBefore :
    decode (Field.writeAll (m.recordsBefore versions)) =
      decode (Field.writeAll (m.toFields versions)) := by
  have declared : ∀ f ∈ m.recordsBefore versions, Field.Declared schema .model f := by
    intro f member
    exact Model.declared versions m f (List.mem_append_left _ member)
  rw [decode, decode]
  cases parsed : Field.parse schema maxDepth .model (Field.writeAll (m.recordsBefore versions)) with
  | error e =>
    have refused := Field.parse_append_of_error schema_keyed declared parsed
      (Field.writeAll [versions.record])
    rw [← Field.writeAll_append, ← toFields_eq] at refused
    rw [refused]
  | ok fields =>
    obtain ⟨readable, rfl⟩ := (Field.parse_writeAll_iff schema_keyed declared).1 parsed
    have whole : Field.parse schema maxDepth .model (Field.writeAll (m.toFields versions)) =
        .ok (m.toFields versions) := by
      refine (Field.parse_writeAll_iff schema_keyed (Model.declared versions m)).2 ⟨?_, rfl⟩
      rw [toFields_eq, List.forall_mem_append, List.forall_mem_singleton]
      exact ⟨readable, versions.record_readable⟩
    simp only [whole, ofFields_recordsBefore]

/-! ### Cuts -/

/-- The first records of a file hold no graph, or all but the operator sets, or all. -/
theorem firstRecords_cases {before after : List Field}
    (split : m.toFields versions = before ++ after) :
    Content.message? 7 before = none ∨ before = m.recordsBefore versions ∨
      before = m.toFields versions := by
  rw [toFields] at split
  rcases before with _ | ⟨a, _ | ⟨b, _ | ⟨c, _ | ⟨d, before⟩⟩⟩⟩
  · exact .inl rfl
  · obtain ⟨rfl, -⟩ := by simpa only [List.cons_append, List.cons.injEq] using split
    exact .inl rfl
  · obtain ⟨rfl, rfl, -⟩ := by simpa only [List.cons_append, List.cons.injEq] using split
    exact .inl rfl
  · obtain ⟨rfl, rfl, rfl, -⟩ := by simpa only [List.cons_append, List.cons.injEq] using split
    exact .inr (.inl rfl)
  · obtain ⟨rfl, rfl, rfl, rfl, nothing⟩ := by
      simpa only [List.cons_append, List.cons.injEq] using split
    obtain ⟨rfl, -⟩ := List.append_eq_nil_iff.1 nothing.symm
    exact .inr (.inr rfl)

/-- Records without a graph are refused. -/
theorem decode_eq_error_of_message? {fields : List Field}
    (declared : ∀ f ∈ fields, Field.Declared schema .model f)
    (absent : Content.message? 7 fields = none) :
    ∃ fault, decode (Field.writeAll fields) = .error fault ∧ IsInvalidFormat fault := by
  rw [decode]
  cases parsed : Field.parse schema maxDepth .model (Field.writeAll fields) with
  | error e => exact ⟨_, rfl, trivial⟩
  | ok found =>
    obtain ⟨-, rfl⟩ := (Field.parse_writeAll_iff schema_keyed declared).1 parsed
    exact ⟨.error .noGraph, by simp only [ofFields, absent]; rfl, trivial⟩

/-- The bytes of a model are refused for nothing but their format. -/
theorem decode_encode_failsOnly (formed : m.graph.Everywhere Graph.IsFormed)
    (encoded : m.encode versions = .ok bytes) : FailsOnly IsInvalidFormat (decode bytes) := by
  obtain rfl := eq_writeAll_of_encode encoded
  rw [decode]
  cases parsed : Field.parse schema maxDepth .model (Field.writeAll (m.toFields versions)) with
  | error e => exact failsOnly_error trivial
  | ok found =>
    obtain ⟨-, rfl⟩ := (Field.parse_writeAll_iff schema_keyed (Model.declared versions m)).1 parsed
    have graph : Content.message? 7 (m.toFields versions) = some m.graph.toFields := by
      simp [toFields, Content.message?, Field.messageOf, intField]
    simp only [ofFields, graph]
    refine FailsOnly.bind ?_ fun _ _ => failsOnly_ok _
    exact (Graph.ofFields_toFields_failsOnly formed).mono fun _ negative => negative.isInvalidFormat

theorem decode_of_record_missing (encoded : m.encode versions = .ok bytes)
    (missing : cut ++ versions.record.write = bytes) : decode cut = decode bytes := by
  obtain rfl := eq_writeAll_of_encode encoded
  rw [toFields_eq, Field.writeAll_append] at missing
  obtain rfl : cut = Field.writeAll (m.recordsBefore versions) := by
    simpa [Field.writeAll] using missing
  exact decode_recordsBefore

theorem decode_of_cut (encoded : m.encode versions = .ok bytes) (begins : cut <+: bytes)
    (proper : cut ≠ bytes) (missing : cut ++ versions.record.write ≠ bytes) :
    ∃ fault, decode cut = .error fault ∧ IsInvalidFormat fault := by
  obtain rfl := eq_writeAll_of_encode encoded
  have declared := Model.declared versions m
  rcases Field.parse_cut maxDepth schema_keyed declared begins with
    ⟨before, after, split, rfl⟩ | ⟨e, failed⟩
  · rcases firstRecords_cases split with absent | rfl | rfl
    · refine decode_eq_error_of_message? (fun f member => declared f ?_) absent
      rw [split]
      exact List.mem_append_left _ member
    · rw [toFields_eq, Field.writeAll_append] at missing
      exact absurd (by simp [Field.writeAll]) missing
    · exact absurd rfl proper
  · exact ⟨.error (.malformed e), by rw [decode, failed]; rfl, trivial⟩

/-- Of the file of a model whose tensors are checked, whatever versions it declares, the first
bytes are read as the file is if the record of the operator sets alone is missing, and are
otherwise refused. They never crash, are never refused for anything but their format, and are never
read as another model than the file is. -/
theorem decode_cut (formed : m.graph.Everywhere Graph.IsFormed)
    (encoded : m.encode versions = .ok bytes) (begins : cut <+: bytes) (proper : cut ≠ bytes) :
    (cut ++ versions.record.write = bytes → decode cut = decode bytes) ∧
      (cut ++ versions.record.write ≠ bytes →
        ∃ fault, decode cut = .error fault ∧ IsInvalidFormat fault) ∧
      FailsOnly IsInvalidFormat (decode cut) ∧
      ∀ read, decode cut = .ok read → decode bytes = .ok read := by
  by_cases missing : cut ++ versions.record.write = bytes
  · have same := decode_of_record_missing encoded missing
    refine ⟨fun _ => same, absurd missing, ?_, fun read done => ?_⟩
    · rw [same]
      exact decode_encode_failsOnly formed encoded
    · rw [← same, done]
  · obtain ⟨fault, failed, invalid⟩ := decode_of_cut encoded begins proper missing
    refine ⟨fun record => absurd record missing, fun _ => ⟨fault, failed, invalid⟩, ?_, ?_⟩
    · rw [failed]
      exact failsOnly_error invalid
    · intro read done
      rw [failed] at done
      cases done

/-- The record of the operator sets takes up the last six bytes of a file, and one byte less than
what stands before it is no file. -/
theorem decode_cut_branching :
    ∃ bytes, (branching 3).encode {} = .ok bytes ∧
      decode (bytes.take (bytes.length - 6)) = decode bytes ∧
      ∃ fault, decode (bytes.take (bytes.length - 7)) = .error fault ∧ IsInvalidFormat fault := by
  have encoded : (branching 3).encode {} =
      .ok (Field.writeAll ((branching 3).toFields {})) := by
    decide +kernel
  have formed : (branching 3).graph.Everywhere Graph.IsFormed := by decide +kernel
  refine ⟨_, encoded, ?_, ?_⟩
  · exact (decode_cut formed encoded (List.take_prefix _ _) (by decide +kernel)).1
      (by decide +kernel)
  · exact (decode_cut formed encoded (List.take_prefix _ _) (by decide +kernel)).2.1
      (by decide +kernel)

end Model

end OnnxCorpus
