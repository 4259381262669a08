import OnnxCorpus.Proofs.Format.RoundTrip
import OnnxCorpus.Proofs.Wire.Unambiguous

/-!
# Distinct models are written differently

No two models have the same fields (`Graph.eq_of_toFields`), and no two lists of fields have the
same bytes. So a file has one model and one pair of versions at most (`Model.encode_injective`),
also where its sizes or its nesting keep it from being read again. Of the tensors it is asked that
their storage fits their type: without elements, storages of one type look alike.
-/

namespace OnnxCorpus

open Wire Format

/-- Lists are equal if what is made of them is, and their elements are told apart by that. -/
theorem eq_of_map_eq {α β : Type} {f : α → β} {xs ys : List α}
    (each : ∀ x ∈ xs, ∀ y ∈ ys, f x = f y → x = y) (same : xs.map f = ys.map f) : xs = ys := by
  have pairs : List.Forall₂ (fun x y => f x = f y) xs ys := by
    rw [← List.forall₂_eq_eq_eq, List.forall₂_map_left_iff, List.forall₂_map_right_iff] at same
    exact same
  clear same
  induction pairs with
  | nil => rfl
  | cons here _ ih =>
    rw [each _ List.mem_cons_self _ List.mem_cons_self here,
      ih fun x member y member' => each x (List.mem_cons_of_mem _ member) y
        (List.mem_cons_of_mem _ member')]

theorem Format.intField_inj {number : Nat} {m n : Int64}
    (same : intField number m = intField number n) : m = n := by
  simp only [intField, Field.scalar.injEq, Scalar.varint.injEq, true_and] at same
  simpa using congrArg UInt64.toInt64 same

theorem ElementType.eq_of_field {number : Nat} {type type' : ElementType}
    (same : intField number type.code.toInt64 = intField number type'.code.toInt64) :
    type = type' := by
  apply ElementType.code_injective
  simpa using congrArg Int64.toInt32 (intField_inj same)

theorem Binary32.eq_of_field {number : Nat} {x y : Binary32}
    (same : Field.scalar number (.fixed32 x.bits) = .scalar number (.fixed32 y.bits)) : x = y := by
  simp only [Field.scalar.injEq, Scalar.fixed32.injEq, true_and] at same
  exact congrArg Binary32.mk same

/-! ### Values and tensors -/

theorem Dim.eq_of_toFields {d d' : Dim} (same : d.toFields = d'.toFields) : d = d' := by
  cases d <;> cases d' <;> simp_all [toFields]

theorem ValueInfo.eq_of_toFields {v v' : ValueInfo} (same : v.toFields = v'.toFields) : v = v' := by
  simp only [toFields, List.cons.injEq, Field.text.injEq, Field.message.injEq, and_true,
    true_and] at same
  obtain ⟨name, type, shape⟩ := same
  have shape : v.shape = v'.shape :=
    eq_of_map_eq (fun d _ d' _ here => Dim.eq_of_toFields (by simpa using here)) shape
  have type : v.type = v'.type := ElementType.eq_of_field type
  cases v
  cases v'
  simp_all

/-- A tensor's type says which storage it has, unless that is the raw one, which is always
written. -/
theorem Tensor.eq_of_toFields {t t' : Tensor} (held : t.payload.storage.accepts t.type)
    (held' : t'.payload.storage.accepts t'.type) (same : t.toFields = t'.toFields) : t = t' := by
  have type : t.type = t'.type := by
    have read := t.elementType_toFields
    rw [same, t'.elementType_toFields] at read
    exact (Except.ok.inj read).symm
  have payload : t.payload = t'.payload := by
    rw [← payload_ofFields_toFields held, ← payload_ofFields_toFields held', same, type]
  have name : t.name = t'.name := by
    rw [← t.text_toFields, same, t'.text_toFields]
  have dims : t.dims = t'.dims := by
    rw [← t.dims_toFields, same, t'.dims_toFields]
  cases t
  cases t'
  simp_all

/-! ### Attributes, nodes and graphs -/

/-- The storages of the tensors of a graph itself, apart from its bodies, fit their types. -/
def Graph.Stored (g : Graph) : Prop := ∀ t ∈ g.tensors, t.payload.storage.accepts t.type

namespace Attribute

variable {value value' : Attribute}

/-- Values of one kind are told apart by their fields, if their tensors and bodies are. -/
theorem eq_of_toFields (kind : value.kind = value'.kind)
    (tensors : ∀ t, value.tensor? = some t → ∀ t', value'.tensor? = some t' →
      t.toFields = t'.toFields → t = t')
    (bodies : ∀ b, value.body? = some b → ∀ b', value'.body? = some b' →
      b.toFields = b'.toFields → b = b')
    (same : value.toFields = value'.toFields) : value = value' := by
  cases value with
  | float x =>
    cases value' <;> cases kind
    rw [Binary32.eq_of_field (List.head_eq_of_cons_eq same)]
  | int n =>
    cases value' <;> cases kind
    rw [intField_inj (List.head_eq_of_cons_eq same)]
  | string text =>
    cases value' <;> cases kind
    simp only [toFields, List.cons.injEq, Field.bytes.injEq, true_and, and_true] at same
    rw [utf8_injective same]
  | floats xs =>
    cases value' <;> cases kind
    rw [eq_of_map_eq (fun x _ y _ here => Binary32.eq_of_field here) same]
  | ints ns =>
    cases value' <;> cases kind
    rw [eq_of_map_eq (fun m _ n _ here => intField_inj here) same]
  | strings texts =>
    cases value' <;> cases kind
    rw [eq_of_map_eq (fun s _ t _ here => utf8_injective (by simpa using here)) same]
  | tensor t =>
    cases value' <;> cases kind
    simp only [toFields, List.cons.injEq, Field.message.injEq, true_and, and_true] at same
    rw [tensors t rfl _ rfl same]
  | graph b =>
    cases value' <;> cases kind
    simp only [toFields, List.cons.injEq, Field.message.injEq, true_and, and_true] at same
    rw [bodies b rfl _ rfl same]

/-- Attributes are told apart by their fields, if their tensors and bodies are. -/
theorem eq_of_entryToFields {entry entry' : String × Attribute}
    (tensors : ∀ t, entry.2.tensor? = some t → ∀ t', entry'.2.tensor? = some t' →
      t.toFields = t'.toFields → t = t')
    (bodies : ∀ b, entry.2.body? = some b → ∀ b', entry'.2.body? = some b' →
      b.toFields = b'.toFields → b = b')
    (same : entryToFields entry = entryToFields entry') : entry = entry' := by
  obtain ⟨name, value⟩ := entry
  obtain ⟨name', value'⟩ := entry'
  have kind : value.kind = value'.kind := by
    have code := kind_entryToFields name value
    rw [same, kind_entryToFields] at code
    rw [← Option.some.injEq, ← AttributeKind.ofCode?_code, ← code, AttributeKind.ofCode?_code]
  have names : name = name' := by
    rw [← text_entryToFields name value, same, text_entryToFields]
  have fields : value.toFields = value'.toFields := by
    simp only [entryToFields, List.append_cancel_left_eq, names, kind,
      List.append_cancel_right_eq] at same
    exact same
  rw [names, eq_of_toFields kind tensors bodies fields]

end Attribute

/-- Nodes are told apart by their fields, if their tensors and bodies are. -/
theorem Node.eq_of_toFields {node node' : Node}
    (tensors : ∀ t ∈ node.tensors, ∀ t' ∈ node'.tensors, t.toFields = t'.toFields → t = t')
    (bodies : ∀ b ∈ node.bodies, ∀ b' ∈ node'.bodies, b.toFields = b'.toFields → b = b')
    (same : node.toFields = node'.toFields) : node = node' := by
  have attributes : node.attributes = node'.attributes := by
    have entries := node.messages_toFields
    rw [same, node'.messages_toFields] at entries
    refine eq_of_map_eq (fun entry member entry' member' here => ?_) entries.symm
    refine Attribute.eq_of_entryToFields (fun t held t' held' => ?_) (fun b held b' held' => ?_)
      here
    · exact tensors t (List.mem_filterMap.2 ⟨entry, member, held⟩) t'
        (List.mem_filterMap.2 ⟨entry', member', held'⟩)
    · exact bodies b (List.mem_filterMap.2 ⟨entry, member, held⟩) b'
        (List.mem_filterMap.2 ⟨entry', member', held'⟩)
  have name : node.name = node'.name := by
    rw [← node.text_toFields_name, same, node'.text_toFields_name]
  have opType : node.opType = node'.opType := by
    rw [← node.text_toFields_opType, same, node'.text_toFields_opType]
  have inputs : node.inputs = node'.inputs := by
    rw [← node.texts_toFields_inputs, same, node'.texts_toFields_inputs]
  have outputs : node.outputs = node'.outputs := by
    rw [← node.texts_toFields_outputs, same, node'.texts_toFields_outputs]
  cases node
  cases node'
  simp_all

/-- Graphs whose tensors are kept in storages that fit their types are told apart by their
fields. -/
theorem Graph.eq_of_toFields {g g' : Graph} (stored : g.Everywhere Graph.Stored)
    (stored' : g'.Everywhere Graph.Stored) (same : g.toFields = g'.toFields) : g = g' := by
  induction g using Graph.inductionOnBodies generalizing g' with
  | step g ih =>
    obtain ⟨here, inside⟩ := Graph.everywhere_iff.1 stored
    obtain ⟨here', inside'⟩ := Graph.everywhere_iff.1 stored'
    have messages (n : Nat) := g.messages_toFields n
    simp only [same, g'.messages_toFields] at messages
    have nodes : g.nodes = g'.nodes := by
      refine eq_of_map_eq (fun n member n' member' begun => ?_) (by simpa using (messages 1).symm)
      refine Node.eq_of_toFields (fun t held t' held' => ?_) (fun b held b' held' => ?_) begun
      · exact Tensor.eq_of_toFields
          (here t (List.mem_append_right _ (List.mem_flatMap.2 ⟨n, member, held⟩)))
          (here' t' (List.mem_append_right _ (List.mem_flatMap.2 ⟨n', member', held'⟩)))
      · have among := List.mem_flatMap.2 ⟨n, member, held⟩
        have among' := List.mem_flatMap.2 ⟨n', member', held'⟩
        exact ih b among (inside b among) (inside' b' among')
    have initializers : g.initializers = g'.initializers :=
      eq_of_map_eq (fun t member t' member' => Tensor.eq_of_toFields
        (here t (List.mem_append_left _ member)) (here' t' (List.mem_append_left _ member')))
        (by simpa using (messages 5).symm)
    have inputs : g.inputs = g'.inputs :=
      eq_of_map_eq (fun v _ v' _ => ValueInfo.eq_of_toFields) (by simpa using (messages 11).symm)
    have outputs : g.outputs = g'.outputs :=
      eq_of_map_eq (fun v _ v' _ => ValueInfo.eq_of_toFields) (by simpa using (messages 12).symm)
    have name : g.name = g'.name := by
      rw [← g.text_toFields, same, g'.text_toFields]
    cases g
    cases g'
    simp_all

/-! ### Models -/

namespace Model

variable {versions versions' : Versions} {m m' : Model} {bytes : List UInt8}

theorem producer_eq_of_toFields (same : m.toFields versions = m'.toFields versions') :
    m.producer = m'.producer := by
  simp only [toFields, List.cons.injEq, Field.text.injEq, true_and] at same
  exact same.2.1

/-- Models of one file have the same fields. -/
theorem toFields_eq_of_encode (encoded : m.encode versions = .ok bytes)
    (encoded' : m'.encode versions' = .ok bytes) :
    m.toFields versions = m'.toFields versions' := by
  apply Field.eq_of_writeAll_eq (declared versions m) (declared versions' m')
  rw [← eq_writeAll_of_encode encoded, ← eq_writeAll_of_encode encoded']

/-- A file is that of one model with one pair of versions, however large its sizes and however deep
its bodies. -/
theorem encode_injective
    (checked : m.graph.Everywhere fun g => ∀ t ∈ g.tensors, t.IsChecked)
    (checked' : m'.graph.Everywhere fun g => ∀ t ∈ g.tensors, t.IsChecked)
    (encoded : m.encode versions = .ok bytes) (encoded' : m'.encode versions' = .ok bytes) :
    versions = versions' ∧ m = m' := by
  have same := toFields_eq_of_encode encoded encoded'
  have producer := producer_eq_of_toFields same
  simp only [toFields, Versions.toFields, List.cons.injEq, Field.message.injEq, true_and,
    and_true] at same
  obtain ⟨ir, -, graph, opset⟩ := same
  have graph : m.graph = m'.graph := by
    refine Graph.eq_of_toFields (fun entry member => ?_) (fun entry member => ?_) graph
    · exact fun t held => (checked entry member t held).accepts
    · exact fun t held => (checked' entry member t held).accepts
  have ir := intField_inj ir
  have opset := intField_inj opset
  cases versions
  cases versions'
  cases m
  cases m'
  simp_all

/-- A model of one choice, with its bodies set in some order and a size that is not read back. -/
def choosing (bodies : List (String × Graph)) : Model where
  graph := {
    name := "g"
    nodes := [bodies.foldl (fun node (name, body) => node.attr name (.graph body))
      (Node.new "If" ["c"] ["y"])]
    inputs := [.scalar "c" .bool]
    outputs := [⟨"y", .f32, [.fixed 0x8000000000000000]⟩]
    initializers := [⟨"k", .f32, [1], .float [⟨0x7fc00001⟩]⟩] }
  producer := "p"

theorem encode_injective_choosing :
    let body (name : String) : Graph :=
      ⟨name, [Node.new "Neg" ["k"] ["z"]], [], [.scalar "z" .f32], []⟩
    let forth := choosing [("then_branch", body "t"), ("else_branch", body "e")]
    let back := choosing [("else_branch", body "e"), ("then_branch", body "t")]
    ∃ bytes, forth.encode {} = .ok bytes ∧ back.encode {} = .ok bytes ∧ forth = back := by
  intro body forth back
  have encoded : forth.encode {} = .ok (Field.writeAll (forth.toFields {})) := by
    decide +kernel
  have encoded' : back.encode {} = .ok (Field.writeAll (forth.toFields {})) := by
    decide +kernel
  exact ⟨_, encoded, encoded', (encode_injective (by decide +kernel) (by decide +kernel)
    encoded encoded').2⟩

end Model

end OnnxCorpus
