import OnnxCorpus.Format.Encode
import OnnxCorpus.Proofs.Graph.Bodies
import OnnxCorpus.Proofs.Wire.ReadBack

/-!
# The layout of a written model

The fields of a model are those that the schema declares, at every depth (`Model.declared`), and
their messages nest at most three deeper for each level of bodies (`Model.height_le`).
-/

namespace OnnxCorpus

open Wire Format

/-! ### Fields of lists -/

theorem Node.listToFields_eq_map (nodes : List Node) :
    Node.listToFields nodes = nodes.map fun node => .message 1 node.toFields := by
  induction nodes with
  | nil => rfl
  | cons node rest ih => rw [Node.listToFields, ih, List.map_cons]

/-- The fields of an attribute and its name. -/
def Attribute.entryToFields (entry : String × Attribute) : List Field :=
  [.text 1 entry.1] ++ entry.2.toFields ++ [intField 20 entry.2.kind.code.toInt64]

theorem Attribute.tableToFields_eq_map (table : List (String × Attribute)) :
    Attribute.tableToFields table =
      table.map fun entry => .message 5 (Attribute.entryToFields entry) := by
  induction table with
  | nil => rfl
  | cons entry rest ih => rw [Attribute.tableToFields, ih, List.map_cons]; rfl

theorem Graph.toFields_eq (g : Graph) :
    g.toFields = g.nodes.map (fun node => .message 1 node.toFields) ++ [.text 2 g.name] ++
      g.initializers.map (fun t => .message 5 t.toFields) ++
      g.inputs.map (fun v => .message 11 v.toFields) ++
      g.outputs.map (fun v => .message 12 v.toFields) := by
  rw [← Node.listToFields_eq_map]
  cases g
  rfl

theorem Node.toFields_eq (node : Node) :
    node.toFields = node.inputs.map (.text 1) ++ node.outputs.map (.text 2) ++
      (if node.name = "" then [] else [.text 3 node.name]) ++ [.text 4 node.opType] ++
      node.attributes.map fun entry => .message 5 (Attribute.entryToFields entry) := by
  rw [← Attribute.tableToFields_eq_map]
  cases node
  rfl

/-! ### Declared fields -/

theorem Format.MessageType.field?_zero (type : MessageType) : type.field? 0 = none := by
  cases type <;> rfl

theorem Format.MessageType.field?_large (type : MessageType) (n : Nat) :
    type.field? (n + 22) = none := by
  cases type <;> rfl

theorem Format.schema_keyed : schema.Keyed := by
  intro type number spec declared
  change type.field? number = some spec at declared
  have positive : number ≠ 0 := by
    rintro rfl
    simp [MessageType.field?_zero] at declared
  have small : number < 22 := by
    refine Nat.lt_of_not_le fun large => ?_
    obtain ⟨n, rfl⟩ := Nat.exists_eq_add_of_le' large
    simp [MessageType.field?_large] at declared
  simp only [UInt32.size]
  omega

theorem Dim.declared (d : Dim) : ∀ f ∈ d.toFields, Field.Declared schema .dimension f := by
  cases d with
  | fixed size => exact List.forall_mem_singleton.2 (.scalar rfl)
  | param name => exact List.forall_mem_singleton.2 (.text rfl)
  | unknown => exact List.forall_mem_nil _

theorem ValueInfo.declared (v : ValueInfo) :
    ∀ f ∈ v.toFields, Field.Declared schema .valueInfo f := by
  have shape : ∀ f ∈ v.shape.map fun d => Field.message 1 d.toFields,
      Field.Declared schema .shape f :=
    List.forall_mem_map.2 fun d _ => .message rfl d.declared
  have tensorType : ∀ f ∈ [intField 1 v.type.code.toInt64,
      .message 2 (v.shape.map fun d => .message 1 d.toFields)],
      Field.Declared schema .tensorType f :=
    List.forall_mem_cons.2 ⟨.scalar rfl, List.forall_mem_singleton.2 (.message rfl shape)⟩
  have type : ∀ f ∈ [Field.message 1 [intField 1 v.type.code.toInt64,
      .message 2 (v.shape.map fun d => .message 1 d.toFields)]],
      Field.Declared schema .valueType f :=
    List.forall_mem_singleton.2 (.message rfl tensorType)
  exact List.forall_mem_cons.2 ⟨.text rfl, List.forall_mem_singleton.2 (.message rfl type)⟩

theorem Format.packedField_declared {number : Nat} {name : String} {kind : ScalarKind}
    {values : List Scalar} (spec : schema.field? .tensor number = some ⟨name, .scalars kind⟩)
    (kinds : ∀ value ∈ values, value.kind = kind) :
    ∀ f ∈ packedField number values, Field.Declared schema .tensor f := by
  rw [packedField]
  split
  · exact List.forall_mem_nil _
  · exact List.forall_mem_singleton.2 (.packed spec kinds)

theorem Payload.declared_beforeName (payload : Payload) :
    ∀ f ∈ payload.fieldsBeforeName, Field.Declared schema .tensor f := by
  cases payload with
  | float values | int32 values | int64 values =>
    exact packedField_declared rfl (List.forall_mem_map.2 fun _ _ => rfl)
  | string values => exact List.forall_mem_map.2 fun _ _ => .bytes rfl
  | raw _ | double _ | uint64 _ => exact List.forall_mem_nil _

theorem Payload.declared_afterName (payload : Payload) :
    ∀ f ∈ payload.fieldsAfterName, Field.Declared schema .tensor f := by
  cases payload with
  | raw bytes => exact List.forall_mem_singleton.2 (.bytes rfl)
  | double values | uint64 values =>
    exact packedField_declared rfl (List.forall_mem_map.2 fun _ _ => rfl)
  | float _ | int32 _ | string _ | int64 _ => exact List.forall_mem_nil _

theorem Tensor.declared (t : Tensor) : ∀ f ∈ t.toFields, Field.Declared schema .tensor f := by
  simp only [Tensor.toFields, List.forall_mem_append, List.forall_mem_map,
    List.forall_mem_singleton]
  exact ⟨⟨⟨⟨fun _ _ => .element rfl, .scalar rfl⟩, t.payload.declared_beforeName⟩, .text rfl⟩,
    t.payload.declared_afterName⟩

theorem Attribute.declared {value : Attribute}
    (inside : ∀ body, value.body? = some body → ∀ f ∈ body.toFields, Field.Declared schema .graph f) :
    ∀ f ∈ value.toFields, Field.Declared schema .attribute f := by
  cases value with
  | float _ | int _ => exact List.forall_mem_singleton.2 (.scalar rfl)
  | string _ => exact List.forall_mem_singleton.2 (.bytes rfl)
  | floats _ | ints _ => exact List.forall_mem_map.2 fun _ _ => .element rfl
  | strings _ => exact List.forall_mem_map.2 fun _ _ => .bytes rfl
  | tensor t => exact List.forall_mem_singleton.2 (.message rfl t.declared)
  | graph body => exact List.forall_mem_singleton.2 (.message rfl (inside body rfl))

theorem Node.declared {node : Node}
    (inside : ∀ body ∈ node.bodies, ∀ f ∈ body.toFields, Field.Declared schema .graph f) :
    ∀ f ∈ node.toFields, Field.Declared schema .node f := by
  have named : ∀ f ∈ if node.name = "" then [] else [Field.text 3 node.name],
      Field.Declared schema .node f := by
    split
    · exact List.forall_mem_nil _
    · exact List.forall_mem_singleton.2 (.text rfl)
  have entry (e) (member : e ∈ node.attributes) :
      ∀ f ∈ Attribute.entryToFields e, Field.Declared schema .attribute f := by
    simp only [Attribute.entryToFields, List.forall_mem_append, List.forall_mem_singleton]
    refine ⟨⟨.text rfl, Attribute.declared fun body held => inside body ?_⟩, .scalar rfl⟩
    exact List.mem_filterMap.2 ⟨e, member, held⟩
  simp only [Node.toFields_eq, List.forall_mem_append, List.forall_mem_map,
    List.forall_mem_singleton]
  exact ⟨⟨⟨⟨fun _ _ => .text rfl, fun _ _ => .text rfl⟩, named⟩, .text rfl⟩,
    fun e member => .message rfl (entry e member)⟩

theorem Graph.declared (g : Graph) : ∀ f ∈ g.toFields, Field.Declared schema .graph f := by
  induction g using Graph.inductionOnBodies with
  | step g ih =>
    have node (n) (member : n ∈ g.nodes) : ∀ f ∈ n.toFields, Field.Declared schema .node f :=
      Node.declared fun body held => ih body (List.mem_flatMap.2 ⟨n, member, held⟩)
    simp only [Graph.toFields_eq, List.forall_mem_append, List.forall_mem_map,
      List.forall_mem_singleton]
    exact ⟨⟨⟨⟨fun n member => .message rfl (node n member), .text rfl⟩,
      fun t _ => .message rfl t.declared⟩, fun v _ => .message rfl v.declared⟩,
      fun v _ => .message rfl v.declared⟩

theorem Model.declared (versions : Versions) (m : Model) :
    ∀ f ∈ m.toFields versions, Field.Declared schema .model f := by
  have operatorSet : ∀ f ∈ versions.toFields, Field.Declared schema .operatorSet f :=
    List.forall_mem_cons.2 ⟨.text rfl, List.forall_mem_singleton.2 (.scalar rfl)⟩
  rw [Model.toFields, List.forall_mem_cons, List.forall_mem_cons, List.forall_mem_cons,
    List.forall_mem_singleton]
  exact ⟨.scalar rfl, .text rfl, .message rfl m.graph.declared, .message rfl operatorSet⟩

/-! ### Nesting -/

theorem Dim.height_le (d : Dim) : ∀ f ∈ d.toFields, f.height ≤ 0 := by
  cases d <;> simp [Dim.toFields, Field.height]

theorem ValueInfo.height_le (v : ValueInfo) : ∀ f ∈ v.toFields, f.height ≤ 4 := by
  have shape : Field.maxHeight (v.shape.map fun d => .message 1 d.toFields) ≤ 1 := by
    rw [Field.maxHeight_le_iff, List.forall_mem_map]
    exact fun d _ => Nat.succ_le_succ (Field.maxHeight_le_iff.2 d.height_le)
  refine List.forall_mem_cons.2 ⟨Nat.zero_le _, List.forall_mem_singleton.2 ?_⟩
  simp only [intField, Field.height, Field.maxHeight]
  omega

theorem Tensor.height_le (t : Tensor) : ∀ f ∈ t.toFields, f.height ≤ 0 := by
  have before : ∀ f ∈ t.payload.fieldsBeforeName, f.height ≤ 0 := by
    cases t.payload <;> simp [Payload.fieldsBeforeName, packedField, Field.height]
  have after : ∀ f ∈ t.payload.fieldsAfterName, f.height ≤ 0 := by
    cases t.payload <;> simp [Payload.fieldsAfterName, packedField, Field.height]
  simp only [Tensor.toFields, List.forall_mem_append, List.forall_mem_map,
    List.forall_mem_singleton]
  exact ⟨⟨⟨⟨fun _ _ => Nat.zero_le _, Nat.zero_le _⟩, before⟩, Nat.zero_le _⟩, after⟩

theorem Attribute.height_le {value : Attribute} {depth : Nat}
    (inside : ∀ body, value.body? = some body → ∀ f ∈ body.toFields, f.height ≤ depth) :
    ∀ f ∈ value.toFields, f.height ≤ depth + 1 := by
  cases value with
  | float _ | int _ | string _ | floats _ | ints _ | strings _ =>
    simp [Attribute.toFields, intField, Field.height]
  | tensor t =>
    refine List.forall_mem_singleton.2 (Nat.succ_le_succ (Nat.le_trans ?_ (Nat.zero_le depth)))
    exact Field.maxHeight_le_iff.2 t.height_le
  | graph body =>
    exact List.forall_mem_singleton.2
      (Nat.succ_le_succ (Field.maxHeight_le_iff.2 (inside body rfl)))

theorem Node.height_le {node : Node} {depth : Nat}
    (inside : ∀ body ∈ node.bodies, ∀ f ∈ body.toFields, f.height ≤ depth) :
    ∀ f ∈ node.toFields, f.height ≤ depth + 2 := by
  have named : ∀ f ∈ if node.name = "" then [] else [Field.text 3 node.name],
      f.height ≤ depth + 2 := by
    split <;> simp [Field.height]
  have entry (e) (member : e ∈ node.attributes) :
      ∀ f ∈ Attribute.entryToFields e, f.height ≤ depth + 1 := by
    simp only [Attribute.entryToFields, List.forall_mem_append, List.forall_mem_singleton]
    refine ⟨⟨Nat.zero_le _, Attribute.height_le fun body held => inside body ?_⟩, Nat.zero_le _⟩
    exact List.mem_filterMap.2 ⟨e, member, held⟩
  simp only [Node.toFields_eq, List.forall_mem_append, List.forall_mem_map,
    List.forall_mem_singleton]
  exact ⟨⟨⟨⟨fun _ _ => Nat.zero_le _, fun _ _ => Nat.zero_le _⟩, named⟩, Nat.zero_le _⟩,
    fun e member => Nat.succ_le_succ (Field.maxHeight_le_iff.2 (entry e member))⟩

/-- A value takes five levels below its graph, and a body sits three below the graph that owns
it: its node, its attribute and its own message. -/
theorem Graph.height_le {g : Graph} {depth : Nat} (nests : g.NestsWithin depth) :
    ∀ f ∈ g.toFields, f.height ≤ 3 * depth + 5 := by
  induction g using Graph.inductionOnBodies generalizing depth with
  | step g ih =>
    have node (n) (member : n ∈ g.nodes) : (Field.message 1 n.toFields).height ≤ 3 * depth + 5 := by
      have inside (body) (held : body ∈ n.bodies) :=
        nests.body (List.mem_flatMap.2 ⟨n, member, held⟩)
      refine Nat.succ_le_succ (Field.maxHeight_le_iff.2 fun f found => ?_)
      cases depth with
      | zero =>
        have low : f.height ≤ 0 + 2 := Node.height_le (fun body held => by
          obtain ⟨above, impossible, -⟩ := inside body held
          omega) f found
        omega
      | succ depth =>
        have low : f.height ≤ 3 * depth + 5 + 2 := Node.height_le (fun body held => by
          obtain ⟨above, same, within⟩ := inside body held
          obtain rfl := Nat.succ.inj same
          exact ih body (List.mem_flatMap.2 ⟨n, member, held⟩) within) f found
        omega
    have value (number) (v : ValueInfo) : (Field.message number v.toFields).height ≤ 3 * depth + 5 :=
      Nat.le_trans (Nat.succ_le_succ (Field.maxHeight_le_iff.2 v.height_le)) (by omega)
    have tensor (t : Tensor) : (Field.message 5 t.toFields).height ≤ 3 * depth + 5 :=
      Nat.le_trans (Nat.succ_le_succ (Field.maxHeight_le_iff.2 t.height_le)) (by omega)
    simp only [Graph.toFields_eq, List.forall_mem_append, List.forall_mem_map,
      List.forall_mem_singleton]
    exact ⟨⟨⟨⟨node, Nat.zero_le _⟩, fun t _ => tensor t⟩, fun v _ => value 11 v⟩,
      fun v _ => value 12 v⟩

theorem Model.height_le {versions : Versions} {m : Model} {depth : Nat}
    (nests : m.graph.NestsWithin depth) :
    ∀ f ∈ m.toFields versions, f.height ≤ 3 * depth + 6 := by
  have graph : (Field.message 7 m.graph.toFields).height ≤ 3 * depth + 6 :=
    Nat.succ_le_succ (Field.maxHeight_le_iff.2 (Graph.height_le nests))
  have operatorSet : (Field.message 8 versions.toFields).height ≤ 3 * depth + 6 := by
    have flat : (Field.message 8 versions.toFields).height = 1 := rfl
    omega
  rw [Model.toFields, List.forall_mem_cons, List.forall_mem_cons, List.forall_mem_cons,
    List.forall_mem_singleton]
  exact ⟨Nat.zero_le _, Nat.zero_le _, graph, operatorSet⟩

end OnnxCorpus
