import OnnxCorpus.Proofs.Format.RoundTrip
import OnnxCorpus.Proofs.Table
import OnnxCorpus.Proofs.Text.Order

/-!
# The order in which attributes are set

Setting attributes of a node one after the other leaves the last value of each name, in a table that
is ordered by the names. So nothing that is done with a node tells in which order its attributes were
set, and a file has a record for each name, in the order of the bytes of the names
(`Node.attrs_eq_of_agree`).
-/

namespace OnnxCorpus

open Wire Format

/-! ### Setting attributes -/

namespace Node

/-- The node with attributes set one after the other. -/
def attrs (node : Node) (chain : List (String × Attribute)) : Node :=
  chain.foldl (fun node entry => node.attr entry.1 entry.2) node

/-- Two chains of attributes set the same names, and each of them to the same value at last. -/
def Agree (chain other : List (String × Attribute)) : Prop :=
  ∀ entry, LastOf (·.1 = entry.1) chain entry ↔ LastOf (·.1 = entry.1) other entry

variable {node : Node} {chain other : List (String × Attribute)}

theorem attrs_eq (node : Node) (chain : List (String × Attribute)) :
    node.attrs chain = { node with
      attributes :=
        chain.foldl (fun table entry => Table.insert entry.1 entry.2 table) node.attributes } := by
  induction chain generalizing node with
  | nil =>
    cases node
    rfl
  | cons entry rest ih => exact ih (node.attr entry.1 entry.2)

theorem attrs_eq_ofList (ordered : Table.Ordered node.attributes) :
    node.attrs chain = { node with attributes := Table.ofList (node.attributes ++ chain) } := by
  rw [attrs_eq, ordered.foldl_insert_eq]

/-- Chains that agree leave the same names alone. -/
theorem Agree.forall_not_iff (agree : Agree chain other) (name : String) :
    (∀ entry ∈ chain, entry.1 ≠ name) ↔ ∀ entry ∈ other, entry.1 ≠ name := by
  have unset {a b : List (String × Attribute)} (agree : Agree a b)
      (absent : ∀ entry ∈ a, entry.1 ≠ name) : ∀ entry ∈ b, entry.1 ≠ name := by
    intro entry member named
    obtain ⟨last, found⟩ :=
      exists_lastOf (p := fun other => other.1 = name) ⟨entry, member, named⟩
    have same := found.meets
    subst same
    exact absent last ((agree last).2 found).mem rfl
  exact ⟨unset agree, unset fun entry => (agree entry).symm⟩

theorem Agree.lastOf_append_iff (agree : Agree chain other) (before : List (String × Attribute))
    (entry : String × Attribute) :
    LastOf (·.1 = entry.1) (before ++ chain) entry ↔
      LastOf (·.1 = entry.1) (before ++ other) entry := by
  rw [OnnxCorpus.lastOf_append_iff, OnnxCorpus.lastOf_append_iff, agree entry,
    agree.forall_not_iff entry.1]

/-- Chains that agree leave the same node. -/
theorem attrs_congr (ordered : Table.Ordered node.attributes) (agree : Agree chain other) :
    node.attrs chain = node.attrs other := by
  have same : Table.ofList (node.attributes ++ chain) = Table.ofList (node.attributes ++ other) := by
    refine (Table.ordered_ofList _).eq_of_mem_iff (Table.ordered_ofList _) fun entry => ?_
    rw [Table.mem_ofList_iff, Table.mem_ofList_iff, agree.lastOf_append_iff]
  rw [attrs_eq_ofList ordered, attrs_eq_ofList ordered, same]

/-! ### Records -/

/-- The fields of the message of a node end in a record for each of some attributes, in the order of
the bytes of their names. -/
structure HasRecords (entries : List (String × Attribute)) (fields : List Field) : Prop where
  last : ∃ front, fields = front ++ entries.map (fun entry =>
    .message 5 (Attribute.entryToFields entry)) ∧ ∀ f ∈ front, f.number < 5
  ordered : entries.Pairwise fun a b => utf8 a.1 < utf8 b.1

theorem hasRecords_toFields (ordered : Table.Ordered node.attributes) :
    HasRecords node.attributes node.toFields where
  last := by
    refine ⟨_, Node.toFields_eq node, ?_⟩
    simp only [List.forall_mem_append, List.forall_mem_map, Field.number]
    split <;> simp
  ordered := ordered.imp utf8_lt_of_lt

end Node

/-! ### Nodes in a file -/

namespace Graph

/-- A node is one of a graph itself or of a body inside it, at any depth. -/
def Contains (g : Graph) (node : Node) : Prop :=
  ∃ entry ∈ g.nested, node ∈ entry.2.nodes

theorem writeAll_body_within {g body : Graph} (held : body ∈ g.bodies) :
    Field.writeAll body.toFields <:+: Field.writeAll g.toFields := by
  obtain ⟨node, among, member⟩ := List.mem_flatMap.1 held
  obtain ⟨name, entry⟩ := Node.mem_bodies_iff.1 member
  have inEntry : .message 6 body.toFields ∈ Attribute.entryToFields (name, .graph body) := by
    simp [Attribute.entryToFields, Attribute.toFields]
  have inNode : .message 5 (Attribute.entryToFields (name, .graph body)) ∈ node.toFields := by
    rw [Node.toFields_eq]
    exact List.mem_append_right _ (List.mem_map.2 ⟨_, entry, rfl⟩)
  have inGraph : .message 1 node.toFields ∈ g.toFields := by
    simpa [Graph.toFields_eq] using ⟨node, among, rfl⟩
  exact (Field.writeAll_within_of_mem inEntry).trans
    ((Field.writeAll_within_of_mem inNode).trans (Field.writeAll_within_of_mem inGraph))

/-- The bytes of a node stand together among those of a graph that contains it. -/
theorem write_node_within (g : Graph) :
    g.Everywhere fun h => ∀ node ∈ h.nodes,
      (Field.message 1 node.toFields).write <:+: Field.writeAll g.toFields := by
  induction g using inductionOnBodies with
  | step g ih =>
    refine everywhere_iff.2 ⟨fun node among => ?_, fun body held entry member node among => ?_⟩
    · exact Field.write_within_of_mem (by simpa [Graph.toFields_eq] using ⟨node, among, rfl⟩)
    · exact (ih body held entry member node among).trans (writeAll_body_within held)

end Graph

/-- The bytes of a node stand together in the file of a model that contains it. -/
theorem Model.write_node_within {m : Model} {versions : Versions} {bytes : List UInt8} {node : Node}
    (encoded : m.encode versions = .ok bytes) (contains : m.graph.Contains node) :
    (Field.message 1 node.toFields).write <:+: bytes := by
  obtain ⟨entry, member, among⟩ := contains
  have graph : .message 7 m.graph.toFields ∈ m.toFields versions := by simp [Model.toFields]
  rw [eq_writeAll_of_encode encoded]
  exact (m.graph.write_node_within entry member node among).trans
    (Field.writeAll_within_of_mem graph)

/-- Chains of attributes that agree make of a node the same node, so that it makes no difference to
the checks or to the bytes of a model which of them was used. In these bytes the node has one record
for each name that it has or that the chain sets, of the last value of that name, and the records are
in the order of the bytes of the names. -/
theorem Node.attrs_eq_of_agree {node : Node} {chain other : List (String × Attribute)}
    (ordered : Table.Ordered node.attributes) (agree : Agree chain other) :
    node.attrs chain = node.attrs other ∧
    (∀ place : Node → Model,
      (place (node.attrs chain)).graph.validate = (place (node.attrs other)).graph.validate ∧
      ∀ versions, (place (node.attrs chain)).encode versions =
        (place (node.attrs other)).encode versions) ∧
    ∃ entries : List (String × Attribute),
      (∀ entry, entry ∈ entries ↔ LastOf (·.1 = entry.1) (node.attributes ++ chain) entry) ∧
      HasRecords entries (node.attrs chain).toFields ∧
      ∀ (m : Model) versions bytes, m.encode versions = .ok bytes →
        m.graph.Contains (node.attrs chain) →
          (Field.message 1 (node.attrs chain).toFields).write <:+: bytes := by
  have same : node.attrs chain = node.attrs other := attrs_congr ordered agree
  have table : (node.attrs chain).attributes = Table.ofList (node.attributes ++ chain) := by
    rw [attrs_eq_ofList ordered]
  refine ⟨same, fun place => by simp only [same, implies_true, and_self],
    (node.attrs chain).attributes, fun entry => ?_, ?_, ?_⟩
  · rw [table, Table.mem_ofList_iff]
  · refine hasRecords_toFields ?_
    rw [table]
    exact Table.ordered_ofList _
  · exact fun m versions bytes encoded contains => Model.write_node_within encoded contains

/-- A node with one attribute to start with. -/
def scaling : Node := (Node.new "Scale" ["x"] ["y"]).attr "m" (.int 0)

/-- A chain that sets a name twice. -/
def scaled : List (String × Attribute) :=
  [("é", .int 1), ("a", .int 2), ("m", .int 3), ("é", .int 4)]

/-- A chain that sets the same names in another order, and another one of them twice. -/
def rescaled : List (String × Attribute) :=
  [("a", .int 5), ("m", .int 3), ("é", .int 4), ("a", .int 2)]

theorem Node.attrs_scaling :
    Table.Ordered scaling.attributes ∧ Agree scaled rescaled ∧
      scaling.attrs scaled = scaling.attrs rescaled ∧
      (scaling.attrs rescaled).attributes = [("a", .int 2), ("m", .int 3), ("é", .int 4)] := by
  have ordered : Table.Ordered scaling.attributes := by decide
  have agree : Agree scaled rescaled := by
    intro entry
    simp only [scaled, rescaled, lastOf_cons_iff, not_lastOf_nil, List.forall_mem_cons]
    grind
  exact ⟨ordered, agree, (attrs_eq_of_agree ordered agree).1, by rfl⟩

end OnnxCorpus
