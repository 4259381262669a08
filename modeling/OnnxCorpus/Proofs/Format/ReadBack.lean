import OnnxCorpus.Proofs.Format.Contents
import OnnxCorpus.Proofs.Format.Recursion

/-!
# What a written model reads as

`Graph.readBack` is a graph with every fixed size from `2 ^ 63` on, at any depth, replaced by an
unknown one. The fields of a graph are read as that graph or, if a tensor has a dim from there on,
refused (`Graph.ofFields_toFields_iff`), and the same holds of models.
-/

namespace OnnxCorpus

open Wire Format Fallible

mutual

/-- The graph that the fields of a graph are read as. -/
def Graph.readBack : Graph → Graph
  | ⟨name, nodes, inputs, outputs, initializers⟩ =>
    ⟨name, Node.readBackAll nodes, inputs.map ValueInfo.readBack, outputs.map ValueInfo.readBack,
      initializers⟩
termination_by structural g => g

/-- The nodes that the fields of nodes are read as. -/
def Node.readBackAll : List Node → List Node
  | [] => []
  | node :: rest => node.readBack :: Node.readBackAll rest
termination_by structural nodes => nodes

/-- The node that the fields of a node are read as. -/
def Node.readBack : Node → Node
  | ⟨name, opType, inputs, outputs, attributes⟩ =>
    ⟨name, opType, inputs, outputs, Attribute.readBackAll attributes⟩
termination_by structural n => n

/-- The attributes, with their names, that the fields of attributes are read as. -/
def Attribute.readBackAll : List (String × Attribute) → List (String × Attribute)
  | [] => []
  | (name, value) :: rest => (name, value.readBack) :: Attribute.readBackAll rest
termination_by structural table => table

/-- The attribute that the fields of an attribute are read as. -/
def Attribute.readBack : Attribute → Attribute
  | .graph body => .graph body.readBack
  | .float value => .float value
  | .int value => .int value
  | .string value => .string value
  | .floats values => .floats values
  | .ints values => .ints values
  | .strings values => .strings values
  | .tensor value => .tensor value
termination_by structural a => a

end

theorem Attribute.readBackAll_eq_map (table : List (String × Attribute)) :
    Attribute.readBackAll table = table.map fun entry => (entry.1, entry.2.readBack) := by
  induction table with
  | nil => rfl
  | cons entry rest ih => rw [Attribute.readBackAll, ih, List.map_cons]

theorem Node.readBackAll_eq_map (nodes : List Node) :
    Node.readBackAll nodes = nodes.map Node.readBack := by
  induction nodes with
  | nil => rfl
  | cons node rest ih => rw [Node.readBackAll, ih, List.map_cons]

theorem Node.readBack_eq (node : Node) :
    node.readBack = { node with
      attributes := node.attributes.map fun entry => (entry.1, entry.2.readBack) } := by
  rw [← Attribute.readBackAll_eq_map]
  cases node
  rfl

theorem Graph.readBack_eq (g : Graph) :
    g.readBack = ⟨g.name, g.nodes.map Node.readBack, g.inputs.map ValueInfo.readBack,
      g.outputs.map ValueInfo.readBack, g.initializers⟩ := by
  rw [← Node.readBackAll_eq_map]
  cases g
  rfl

/-! ### What the fields hold -/

namespace Attribute

variable (name : String) (value : Attribute) (n : Nat)

theorem scalars_entryToFields :
    Content.scalars n (entryToFields (name, value)) =
      Content.scalars n value.toFields ++
        if 20 = n then [.varint value.kind.code.toInt64.toUInt64] else [] := by
  simp [entryToFields, intField, Field.scalarsOf]

theorem byteStrings_entryToFields :
    Content.byteStrings n (entryToFields (name, value)) =
      Content.byteStrings n value.toFields := by
  simp [entryToFields, intField, Field.bytesOf]

theorem messages_entryToFields :
    Content.messages n (entryToFields (name, value)) = Content.messages n value.toFields := by
  simp [entryToFields, intField, Field.messageOf]

theorem kind_entryToFields : int32 20 (entryToFields (name, value)) = value.kind.code := by
  refine int32_of_varints ?_
  rw [Content.varints, scalars_entryToFields]
  cases value <;> simp [Attribute.toFields, Content.scalars_map, Field.scalarsOf, intField,
    Scalar.varint?, flatMap_nothing]

theorem message?_entryToFields_tensor (t : Tensor) :
    Content.message? 5 (entryToFields (name, .tensor t)) = some t.toFields := by
  simp [Content.message?, messages_entryToFields, Attribute.toFields, Field.messageOf]

theorem message?_entryToFields_graph (b : Graph) :
    Content.message? 6 (entryToFields (name, .graph b)) = some b.toFields := by
  simp [Content.message?, messages_entryToFields, Attribute.toFields, Field.messageOf]

theorem text_entryToFields : Content.text 1 (entryToFields (name, value)) = name := by
  cases value <;> simp [entryToFields, Attribute.toFields, Content.text, Content.text?,
    Content.collect_map, Field.textOf, intField]

end Attribute

namespace Node

theorem texts_toFields (node : Node) (n : Nat) :
    Content.texts n node.toFields =
      (if 1 = n then node.inputs else []) ++ (if 2 = n then node.outputs else []) ++
        (if 3 = n ∧ node.name ≠ "" then [node.name] else []) ++
        (if 4 = n then [node.opType] else []) := by
  by_cases unnamed : node.name = "" <;>
    simp [Node.toFields_eq, Field.textOf, apply_ite Option.toList, unnamed]

theorem text_toFields_name (node : Node) : Content.text 3 node.toFields = node.name := by
  by_cases unnamed : node.name = "" <;>
    simp [Content.text, Content.text?, texts_toFields, unnamed]

theorem text_toFields_opType (node : Node) : Content.text 4 node.toFields = node.opType := by
  simp [Content.text, Content.text?, texts_toFields]

theorem texts_toFields_inputs (node : Node) : Content.texts 1 node.toFields = node.inputs := by
  simp [texts_toFields]

theorem texts_toFields_outputs (node : Node) : Content.texts 2 node.toFields = node.outputs := by
  simp [texts_toFields]

theorem messages_toFields (node : Node) :
    Content.messages 5 node.toFields = node.attributes.map Attribute.entryToFields := by
  by_cases unnamed : node.name = "" <;>
    simp [Node.toFields_eq, Field.messageOf, unnamed]

end Node

namespace Graph

theorem text_toFields (g : Graph) : Content.text 2 g.toFields = g.name := by
  simp [Graph.toFields_eq, Content.text, Content.text?, Field.textOf]

theorem messages_toFields (g : Graph) (n : Nat) :
    Content.messages n g.toFields =
      (if 1 = n then g.nodes.map Node.toFields else []) ++
        (if 5 = n then g.initializers.map Tensor.toFields else []) ++
        (if 11 = n then g.inputs.map ValueInfo.toFields else []) ++
        (if 12 = n then g.outputs.map ValueInfo.toFields else []) := by
  simp [Graph.toFields_eq, Field.messageOf]

theorem messages_toFields_parts (g : Graph) :
    Content.messages 1 g.toFields = g.nodes.map Node.toFields ∧
      Content.messages 5 g.toFields = g.initializers.map Tensor.toFields ∧
      Content.messages 11 g.toFields = g.inputs.map ValueInfo.toFields ∧
      Content.messages 12 g.toFields = g.outputs.map ValueInfo.toFields := by
  simp [messages_toFields]

end Graph

/-! ### Reading the fields of a graph -/

section

variable {body : List Field → Decoded Graph} {p : Graph → Prop}

theorem Attribute.ofFieldsWith_toFields_iff {name : String} {value read : Attribute}
    (checked : ∀ t, value.tensor? = some t → t.IsChecked)
    (step : ∀ b, value.body? = some b → ∀ r, body b.toFields = .ok r ↔ p b ∧ r = b.readBack) :
    ofFieldsWith body name (entryToFields (name, value)) = .ok read ↔
      ((∀ t, value.tensor? = some t → t.Fits) ∧ ∀ b, value.body? = some b → p b) ∧
        read = value.readBack := by
  rw [ofFieldsWith, kind_entryToFields, AttributeKind.ofCode?_code]
  cases value with
  | float x =>
    have content : Content.fixed32? 2 (entryToFields (name, .float x)) = some x.bits := by
      simp [Content.fixed32?, Content.fixed32s, scalars_entryToFields, Attribute.toFields,
        Field.scalarsOf, Scalar.fixed32?]
    simp [Attribute.kind, content, tensor?, body?, readBack, eq_comm]
  | int n =>
    have content : Content.varint? 3 (entryToFields (name, .int n)) = some n.toUInt64 := by
      simp [Content.varint?, Content.varints, scalars_entryToFields, Attribute.toFields, intField,
        Field.scalarsOf, Scalar.varint?]
    simp [Attribute.kind, content, tensor?, body?, readBack, eq_comm]
  | string text =>
    have content : Content.bytes? 4 (entryToFields (name, .string text)) = some (utf8 text) := by
      simp [Content.bytes?, byteStrings_entryToFields, Attribute.toFields, Field.bytesOf]
    simp [Attribute.kind, content, tensor?, body?, readBack, eq_comm]
  | floats xs =>
    have content : Content.fixed32s 7 (entryToFields (name, .floats xs)) = xs.map (·.bits) := by
      simp [Content.fixed32s, scalars_entryToFields, Attribute.toFields, Content.scalars_map,
        Field.scalarsOf, ← List.map_eq_flatMap, List.filterMap_map, Function.comp_def,
        Scalar.fixed32?]
    simp [Attribute.kind, content, Function.comp_def, tensor?, body?, readBack, eq_comm]
  | ints ns =>
    have content : Content.varints 8 (entryToFields (name, .ints ns)) = ns.map (·.toUInt64) := by
      simp [Content.varints, scalars_entryToFields, Attribute.toFields, Content.scalars_map,
        intField, Field.scalarsOf, ← List.map_eq_flatMap, List.filterMap_map, Function.comp_def,
        Scalar.varint?]
    simp [Attribute.kind, content, Function.comp_def, tensor?, body?, readBack, eq_comm]
  | strings texts =>
    have content : Content.byteStrings 9 (entryToFields (name, .strings texts)) =
        texts.map utf8 := by
      simp [byteStrings_entryToFields, Attribute.toFields, Content.collect_map, Field.bytesOf]
    have read : (texts.map utf8).mapM decodeText = .ok texts :=
      mapM_eq_ok_iff.2 (List.forall₂_map_left_iff.2
        (List.forall₂_same.2 fun text _ => decodeText_utf8 text))
    simp [Attribute.kind, content, read, tensor?, body?, readBack, eq_comm]
  | tensor t =>
    simp only [Attribute.kind, message?_entryToFields_tensor, bind_eq_ok_iff,
      Tensor.ofFields_toFields_iff (checked t rfl)]
    simp [tensor?, body?, readBack, eq_comm]
  | graph b =>
    simp only [Attribute.kind, message?_entryToFields_graph, bind_eq_ok_iff, step b rfl]
    simp [tensor?, body?, readBack, eq_comm]

theorem Attribute.entryWith_toFields_iff {entry read : String × Attribute}
    (checked : ∀ t, entry.2.tensor? = some t → t.IsChecked)
    (step : ∀ b, entry.2.body? = some b → ∀ r, body b.toFields = .ok r ↔ p b ∧ r = b.readBack) :
    entryWith body (entryToFields entry) = .ok read ↔
      ((∀ t, entry.2.tensor? = some t → t.Fits) ∧ ∀ b, entry.2.body? = some b → p b) ∧
        read = (entry.1, entry.2.readBack) := by
  obtain ⟨name, value⟩ := entry
  simp only [entryWith, text_entryToFields, bind_eq_ok_iff,
    ofFieldsWith_toFields_iff checked step]
  simp [eq_comm]

/-- What holds of the parts of every attribute holds of the tensors and bodies of the node. -/
theorem Node.forall_attributes_iff {node : Node} {q : Tensor → Prop} {p : Graph → Prop} :
    (∀ entry ∈ node.attributes, (∀ t, entry.2.tensor? = some t → q t) ∧
      ∀ b, entry.2.body? = some b → p b) ↔
        (∀ t ∈ node.tensors, q t) ∧ ∀ b ∈ node.bodies, p b := by
  simp only [Node.tensors, Node.bodies, List.mem_filterMap]
  grind

theorem Node.mapM_entryWith_toFields_iff {node : Node} {read : List (String × Attribute)}
    (checked : ∀ t ∈ node.tensors, t.IsChecked)
    (step : ∀ b ∈ node.bodies, ∀ r, body b.toFields = .ok r ↔ p b ∧ r = b.readBack) :
    (node.attributes.map Attribute.entryToFields).mapM (Attribute.entryWith body) = .ok read ↔
      ((∀ t ∈ node.tensors, t.Fits) ∧ ∀ b ∈ node.bodies, p b) ∧
        read = node.readBack.attributes := by
  rw [List.mapM_map, ← Node.forall_attributes_iff, Node.readBack_eq]
  refine mapM_eq_ok_iff_forall fun entry among read => ?_
  exact Attribute.entryWith_toFields_iff
    (fun t held => checked t (List.mem_filterMap.2 ⟨entry, among, held⟩))
    fun b held => step b (List.mem_filterMap.2 ⟨entry, among, held⟩)

theorem Node.ofFieldsWith_toFields_iff {node read : Node}
    (ordered : Table.Ordered node.attributes) (checked : ∀ t ∈ node.tensors, t.IsChecked)
    (step : ∀ b ∈ node.bodies, ∀ r, body b.toFields = .ok r ↔ p b ∧ r = b.readBack) :
    ofFieldsWith body node.toFields = .ok read ↔
      ((∀ t ∈ node.tensors, t.Fits) ∧ ∀ b ∈ node.bodies, p b) ∧ read = node.readBack := by
  have table : Table.ofList node.readBack.attributes = node.readBack.attributes := by
    refine Table.ofList_of_ordered ?_
    rw [Node.readBack_eq]
    exact List.pairwise_map.2 ordered
  have same : Node.mk node.name node.opType node.inputs node.outputs node.readBack.attributes =
      node.readBack := by
    rw [Node.readBack_eq]
  simp only [ofFieldsWith, bind_eq_ok_iff, messages_toFields, text_toFields_name,
    text_toFields_opType, texts_toFields_inputs, texts_toFields_outputs,
    mapM_entryWith_toFields_iff checked step]
  constructor
  · rintro ⟨_, ⟨fit, rfl⟩, result⟩
    rw [table, same] at result
    exact ⟨fit, (Except.ok.inj result).symm⟩
  · rintro ⟨fit, rfl⟩
    exact ⟨_, ⟨fit, rfl⟩, by rw [table, same]⟩

/-- What a graph itself, apart from its bodies, is promised to be: its tensors are checked, and
its attributes are in the order of their names, as `Table.insert` keeps them. -/
structure Graph.IsFormed (g : Graph) : Prop where
  tensors : ∀ t ∈ g.tensors, t.IsChecked
  attributes : ∀ node ∈ g.nodes, Table.Ordered node.attributes

instance : DecidablePred Graph.IsFormed := fun g =>
  decidable_of_iff ((∀ t ∈ g.tensors, t.IsChecked) ∧
      ∀ node ∈ g.nodes, Table.Ordered node.attributes)
    ⟨fun ⟨tensors, attributes⟩ => ⟨tensors, attributes⟩, fun ⟨tensors, attributes⟩ =>
      ⟨tensors, attributes⟩⟩

theorem Graph.mapM_ofFieldsWith_toFields_iff {g : Graph} {read : List Node}
    (formed : g.IsFormed)
    (step : ∀ b ∈ g.bodies, ∀ r, body b.toFields = .ok r ↔ p b ∧ r = b.readBack) :
    (g.nodes.map Node.toFields).mapM (Node.ofFieldsWith body) = .ok read ↔
      (∀ n ∈ g.nodes, (∀ t ∈ n.tensors, t.Fits) ∧ ∀ b ∈ n.bodies, p b) ∧
        read = g.nodes.map Node.readBack := by
  rw [List.mapM_map]
  refine mapM_eq_ok_iff_forall fun n among read => Node.ofFieldsWith_toFields_iff
    (formed.attributes n among) (fun t held => formed.tensors t ?_) fun b held => step b ?_
  · exact List.mem_append_right _ (List.mem_flatMap.2 ⟨n, among, held⟩)
  · exact List.mem_flatMap.2 ⟨n, among, held⟩

theorem Graph.ofFieldsWith_toFields_iff {g read : Graph} (formed : g.IsFormed)
    (step : ∀ b ∈ g.bodies, ∀ r, body b.toFields = .ok r ↔ p b ∧ r = b.readBack) :
    ofFieldsWith body g.toFields = .ok read ↔
      ((∀ t ∈ g.tensors, t.Fits) ∧ ∀ b ∈ g.bodies, p b) ∧ read = g.readBack := by
  have parts : ((∀ t ∈ g.tensors, t.Fits) ∧ ∀ b ∈ g.bodies, p b) ↔
      (∀ n ∈ g.nodes, (∀ t ∈ n.tensors, t.Fits) ∧ ∀ b ∈ n.bodies, p b) ∧
        ∀ t ∈ g.initializers, t.Fits := by
    simp only [Graph.tensors, Graph.bodies, List.forall_mem_append, List.forall_mem_flatMap]
    grind
  obtain ⟨nodes, tensors, inputs, outputs⟩ := messages_toFields_parts g
  have checked : ∀ t ∈ g.initializers, t.IsChecked := fun t member =>
    formed.tensors t (List.mem_append_left _ member)
  simp only [ofFieldsWith, text_toFields, nodes, tensors, inputs, outputs, bind_eq_ok_iff,
    mapM_ofFieldsWith_toFields_iff formed step, ValueInfo.mapM_ofFields_toFields,
    Tensor.mapM_ofFields_toFields_iff checked, parts, Graph.readBack_eq, Except.ok.injEq]
  constructor
  · rintro ⟨_, ⟨fit, rfl⟩, _, rfl, _, rfl, _, ⟨fits, rfl⟩, rfl⟩
    exact ⟨⟨fit, fits⟩, rfl⟩
  · rintro ⟨⟨fit, fits⟩, rfl⟩
    exact ⟨_, ⟨fit, rfl⟩, _, rfl, _, rfl, _, ⟨fits, rfl⟩, rfl⟩

end

theorem Graph.ofFields_toFields_iff {g read : Graph} (formed : g.Everywhere Graph.IsFormed) :
    ofFields g.toFields = .ok read ↔
      g.Everywhere (fun h => ∀ t ∈ h.tensors, t.Fits) ∧ read = g.readBack := by
  induction g using Graph.inductionOnBodies generalizing read with
  | step g ih =>
    obtain ⟨here, inside⟩ := Graph.everywhere_iff.1 formed
    rw [Graph.ofFields_eq, Graph.everywhere_iff]
    exact Graph.ofFieldsWith_toFields_iff here fun b member r => ih b member (inside b member)

/-! ### Models -/

/-- The model that the fields of a model are read as. -/
def Model.readBack (m : Model) : Model := { m with graph := m.graph.readBack }

theorem Model.ofFields_toFields_iff {versions : Versions} {m read : Model}
    (formed : m.graph.Everywhere Graph.IsFormed) :
    ofFields (m.toFields versions) = .ok read ↔
      m.graph.Everywhere (fun h => ∀ t ∈ h.tensors, t.Fits) ∧ read = m.readBack := by
  have graph : Content.message? 7 (m.toFields versions) = some m.graph.toFields := by
    simp [Model.toFields, Content.message?, Field.messageOf, intField]
  have producer : Content.text 2 (m.toFields versions) = m.producer := by
    simp [Model.toFields, Content.text, Content.text?, Field.textOf, intField]
  simp only [ofFields, graph, producer, bind_eq_ok_iff, Graph.ofFields_toFields_iff formed]
  constructor
  · rintro ⟨_, ⟨fit, rfl⟩, result⟩
    exact ⟨fit, (Except.ok.inj result).symm⟩
  · rintro ⟨fit, rfl⟩
    exact ⟨_, ⟨fit, rfl⟩, rfl⟩

/-! ### What comes back unchanged -/

theorem map_eq_self_iff {α : Type} {f : α → α} {xs : List α} :
    xs.map f = xs ↔ ∀ x ∈ xs, f x = x := by
  conv_lhs => rhs; rw [← List.map_id xs]
  exact List.map_inj_left

theorem ValueInfo.readBack_eq_self_iff {v : ValueInfo} :
    v.readBack = v ↔ ∀ d ∈ v.shape, d.Fits := by
  obtain ⟨name, type, shape⟩ := v
  simp [readBack, map_eq_self_iff, Dim.readBack_eq_self_iff]

theorem Attribute.readBack_eq_self_iff {value : Attribute} :
    value.readBack = value ↔ ∀ body, value.body? = some body → body.readBack = body := by
  cases value <;> simp [readBack, body?]

theorem Node.readBack_eq_self_iff {node : Node} :
    node.readBack = node ↔ ∀ body ∈ node.bodies, body.readBack = body := by
  have entry (e : String × Attribute) :
      (e.1, e.2.readBack) = e ↔ ∀ body, e.2.body? = some body → body.readBack = body := by
    rw [← Attribute.readBack_eq_self_iff, Prod.ext_iff, and_iff_right rfl]
  obtain ⟨name, opType, inputs, outputs, attributes⟩ := node
  simp only [Node.readBack_eq, Node.mk.injEq, map_eq_self_iff, entry, true_and, Node.bodies,
    List.mem_filterMap]
  grind

theorem Graph.readBack_eq_self_iff {g : Graph} :
    g.readBack = g ↔ g.Everywhere fun h => ∀ d ∈ h.dims, d.Fits := by
  induction g using Graph.inductionOnBodies with
  | step g ih =>
    have nodes : g.nodes.map Node.readBack = g.nodes ↔
        ∀ body ∈ g.bodies, body.Everywhere fun h => ∀ d ∈ h.dims, d.Fits := by
      simp only [map_eq_self_iff, Node.readBack_eq_self_iff, Graph.bodies,
        List.forall_mem_flatMap]
      exact forall₂_congr fun n among => forall₂_congr fun b held =>
        ih b (List.mem_flatMap.2 ⟨n, among, held⟩)
    have values (vs : List ValueInfo) : vs.map ValueInfo.readBack = vs ↔
        ∀ d ∈ vs.flatMap (·.shape), d.Fits := by
      simp only [map_eq_self_iff, ValueInfo.readBack_eq_self_iff, List.forall_mem_flatMap]
    have parts : g.readBack = g ↔ g.nodes.map Node.readBack = g.nodes ∧
        g.inputs.map ValueInfo.readBack = g.inputs ∧
        g.outputs.map ValueInfo.readBack = g.outputs := by
      rw [Graph.readBack_eq]
      cases g
      simp
    rw [Graph.everywhere_iff, parts, nodes, values, values, Graph.dims, List.flatMap_append,
      List.forall_mem_append]
    exact and_comm

theorem Model.readBack_eq_self_iff {m : Model} :
    m.readBack = m ↔ m.graph.Everywhere fun h => ∀ d ∈ h.dims, d.Fits := by
  rw [← Graph.readBack_eq_self_iff]
  obtain ⟨graph, producer⟩ := m
  simp [readBack]

end OnnxCorpus
