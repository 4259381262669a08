import OnnxCorpus.Format.Encode
import OnnxCorpus.Proofs.Fallible
import OnnxCorpus.Proofs.Graph.Bodies

/-!
# Gaps of a model

A graph is complete if it has a name, its nodes have operators and their attributes names, and the
element types of its inputs and outputs are defined. `Graph.FirstGap` says which gap comes first:
the name of the graph, then the nodes in order, each with its operator and then its attributes in
the order of the table, a body being gone through where it stands, then the inputs, and then the
outputs. The search of `Graph.gap?` finds nothing exactly if the graph is complete at every depth,
and otherwise the first gap. So a model is written exactly if its scopes are right and nothing is
missing, and what is reported otherwise is known (`Model.encode_outcome_iff`).
-/

namespace OnnxCorpus

/-! ### Complete graphs -/

/-- Nothing is missing in a graph itself, its bodies apart. -/
structure Graph.Complete (g : Graph) : Prop where
  name : g.name ≠ ""
  opTypes : ∀ node ∈ g.nodes, node.opType ≠ ""
  attributeNames : ∀ node ∈ g.nodes, ∀ entry ∈ node.attributes, entry.1 ≠ ""
  types : ∀ v ∈ g.inputs ++ g.outputs, v.type ≠ .undefined

instance : DecidablePred Graph.Complete := fun g =>
  decidable_of_iff
    (g.name ≠ "" ∧ (∀ node ∈ g.nodes, node.opType ≠ "") ∧
      (∀ node ∈ g.nodes, ∀ entry ∈ node.attributes, entry.1 ≠ "") ∧
      ∀ v ∈ g.inputs ++ g.outputs, v.type ≠ .undefined)
    ⟨fun ⟨name, opTypes, attributeNames, types⟩ => ⟨name, opTypes, attributeNames, types⟩,
      fun ⟨name, opTypes, attributeNames, types⟩ => ⟨name, opTypes, attributeNames, types⟩⟩

/-- An attribute has a name, and its body, if it holds one, is complete at every depth. -/
def Attribute.EntryComplete (entry : String × Attribute) : Prop :=
  entry.1 ≠ "" ∧ ∀ body ∈ entry.2.body?, body.Everywhere Graph.Complete

/-- A node has an operator, and its attributes are complete. -/
def Node.Complete (node : Node) : Prop :=
  node.opType ≠ "" ∧ ∀ entry ∈ node.attributes, Attribute.EntryComplete entry

theorem Graph.everywhere_complete_iff {g : Graph} :
    g.Everywhere Graph.Complete ↔
      g.name ≠ "" ∧ (∀ node ∈ g.nodes, node.Complete) ∧
        ∀ v ∈ g.inputs ++ g.outputs, v.type ≠ .undefined := by
  have held (node : Node) {p : Graph → Prop} :
      (∀ body ∈ node.bodies, p body) ↔
        ∀ entry ∈ node.attributes, ∀ body ∈ entry.2.body?, p body := by
    simp only [Node.bodies, List.mem_filterMap]
    constructor
    · intro all entry member body found
      exact all body ⟨entry, member, found⟩
    · rintro all body ⟨entry, member, found⟩
      exact all entry member body found
  rw [Graph.everywhere_iff, Graph.bodies, List.forall_mem_flatMap]
  constructor
  · rintro ⟨⟨name, opTypes, attributeNames, types⟩, bodies⟩
    refine ⟨name, fun node among => ⟨opTypes node among, fun entry member => ?_⟩, types⟩
    exact ⟨attributeNames node among entry member, (held node).1 (bodies node among) entry member⟩
  · rintro ⟨name, nodes, types⟩
    refine ⟨⟨name, fun node among => (nodes node among).1, fun node among entry member =>
      ((nodes node among).2 entry member).1, types⟩, fun node among => ?_⟩
    exact (held node).2 fun entry member => ((nodes node among).2 entry member).2

/-! ### The first gap -/

namespace Graph

/-- A graph has a name, and the nodes before one of its nodes are complete. -/
def ComesTo (g : Graph) (node : Node) : Prop :=
  g.name ≠ "" ∧ FirstPast Node.Complete g.nodes node

/-- A node that a graph comes to has an operator, and the attributes before one of its attributes
are complete. -/
def ComesToEntry (g : Graph) (node : Node) (entry : String × Attribute) : Prop :=
  g.ComesTo node ∧ node.opType ≠ "" ∧ FirstPast Attribute.EntryComplete node.attributes entry

/-- A graph has a name, and its nodes are complete. -/
def ComesToValues (g : Graph) : Prop :=
  g.name ≠ "" ∧ ∀ node ∈ g.nodes, node.Complete

/-- What is missing first in a graph. -/
inductive FirstGap : Graph → Gap → Prop
  | graphName {g : Graph} (unnamed : g.name = "") : FirstGap g .graphName
  | opType {g : Graph} {node : Node} (reached : g.ComesTo node) (missing : node.opType = "") :
      FirstGap g (.opType node.outputs)
  | attributeName {g : Graph} {node : Node} {entry : String × Attribute}
      (reached : g.ComesToEntry node entry) (unnamed : entry.1 = "") :
      FirstGap g (.attributeName node.opType)
  | body {g body : Graph} {node : Node} {entry : String × Attribute} {gap : Gap}
      (reached : g.ComesToEntry node entry) (named : entry.1 ≠ "")
      (held : entry.2.body? = some body) (inside : FirstGap body gap) : FirstGap g gap
  | input {g : Graph} {v : ValueInfo} (reached : g.ComesToValues)
      (first : FirstPast (·.type ≠ .undefined) g.inputs v) (undefined : v.type = .undefined) :
      FirstGap g (.elementType v.name)
  | output {g : Graph} {v : ValueInfo} (reached : g.ComesToValues)
      (inputs : ∀ v ∈ g.inputs, v.type ≠ .undefined)
      (first : FirstPast (·.type ≠ .undefined) g.outputs v) (undefined : v.type = .undefined) :
      FirstGap g (.elementType v.name)

end Graph

/-! ### The search -/

theorem ValueInfo.gap?_eq_none_iff {v : ValueInfo} : v.gap? = none ↔ v.type ≠ .undefined := by
  rw [ValueInfo.gap?]
  split <;> simp [*]

theorem ValueInfo.gap?_eq_some_iff {v : ValueInfo} {gap : Gap} :
    v.gap? = some gap ↔ v.type = .undefined ∧ .elementType v.name = gap := by
  rw [ValueInfo.gap?]
  split <;> simp [*]

/-- The gap of an attribute of a node with an operator: its name, or a gap of its body. -/
def Attribute.entryGap? (opType : String) (entry : String × Attribute) : Option Gap :=
  if entry.1 = "" then some (.attributeName opType) else entry.2.body?.bind Graph.gap?

theorem Attribute.firstGap?_eq (opType : String) (table : List (String × Attribute)) :
    Attribute.firstGap? opType table = table.findSome? (Attribute.entryGap? opType) := by
  induction table with
  | nil => rfl
  | cons entry rest ih =>
    obtain ⟨name, value⟩ := entry
    have inner : value.gap? = value.body?.bind Graph.gap? := by cases value <;> rfl
    rw [Attribute.firstGap?, List.findSome?_cons, Attribute.entryGap?, inner, ih]
    split
    · rfl
    · cases value.body?.bind Graph.gap? <;> rfl

theorem Node.firstGap?_eq (nodes : List Node) :
    Node.firstGap? nodes = nodes.findSome? Node.gap? := by
  induction nodes with
  | nil => rfl
  | cons node rest ih =>
    rw [Node.firstGap?, ih, List.findSome?_cons]
    cases node.gap? <;> rfl

theorem Node.gap?_eq (node : Node) :
    node.gap? = if node.opType = "" then some (.opType node.outputs)
      else node.attributes.findSome? (Attribute.entryGap? node.opType) := by
  obtain ⟨name, opType, inputs, outputs, attributes⟩ := node
  rw [Node.gap?, Attribute.firstGap?_eq]

theorem Graph.gap?_eq (g : Graph) :
    g.gap? = if g.name = "" then some .graphName
      else (g.nodes.findSome? Node.gap?).or ((g.inputs ++ g.outputs).findSome? ValueInfo.gap?) := by
  obtain ⟨name, nodes, inputs, outputs, initializers⟩ := g
  rw [Graph.gap?, Node.firstGap?_eq]

/-! ### Nothing is found -/

theorem Attribute.entryGap?_eq_none_iff {opType : String} {entry : String × Attribute} :
    Attribute.entryGap? opType entry = none ↔
      entry.1 ≠ "" ∧ ∀ body ∈ entry.2.body?, body.gap? = none := by
  unfold Attribute.entryGap?
  split
  · next unnamed => simp [unnamed]
  · next named => simp [named, Option.bind_eq_none_iff]

theorem Node.gap?_eq_none_iff {node : Node} :
    node.gap? = none ↔
      node.opType ≠ "" ∧ ∀ entry ∈ node.attributes,
        entry.1 ≠ "" ∧ ∀ body ∈ entry.2.body?, body.gap? = none := by
  rw [Node.gap?_eq]
  split
  · next missing => simp [missing]
  · next operator =>
    rw [List.findSome?_eq_none_iff, and_iff_right operator]
    exact forall₂_congr fun entry _ => Attribute.entryGap?_eq_none_iff

theorem Graph.gap?_eq_none_iff_parts {g : Graph} :
    g.gap? = none ↔
      g.name ≠ "" ∧ (∀ node ∈ g.nodes, node.gap? = none) ∧
        ∀ v ∈ g.inputs ++ g.outputs, v.type ≠ .undefined := by
  rw [Graph.gap?_eq]
  split
  · next unnamed => simp [unnamed]
  · next named =>
    rw [Option.or_eq_none_iff, List.findSome?_eq_none_iff, List.findSome?_eq_none_iff,
      and_iff_right named]
    exact and_congr_right' (forall₂_congr fun v _ => ValueInfo.gap?_eq_none_iff)

/-- Nothing is found exactly if nothing is missing, at any depth. -/
theorem Graph.gap?_eq_none_iff {g : Graph} : g.gap? = none ↔ g.Everywhere Graph.Complete := by
  induction g using Graph.inductionOnBodies with
  | step g ih =>
    have nodes (node : Node) (among : node ∈ g.nodes) : node.gap? = none ↔ node.Complete := by
      rw [Node.gap?_eq_none_iff]
      refine and_congr_right' (forall₂_congr fun entry member => and_congr_right' ?_)
      refine forall₂_congr fun body held => ih body (List.mem_flatMap.2 ⟨node, among, ?_⟩)
      exact List.mem_filterMap.2 ⟨entry, member, held⟩
    rw [Graph.gap?_eq_none_iff_parts, Graph.everywhere_complete_iff]
    exact and_congr_right' (and_congr_left' (forall₂_congr nodes))

theorem Attribute.entryGap?_eq_none_iff_complete {opType : String} {entry : String × Attribute} :
    Attribute.entryGap? opType entry = none ↔ Attribute.EntryComplete entry := by
  simp only [Attribute.entryGap?_eq_none_iff, Graph.gap?_eq_none_iff, Attribute.EntryComplete]

theorem Node.gap?_eq_none_iff_complete {node : Node} : node.gap? = none ↔ node.Complete := by
  simp only [Node.gap?_eq_none_iff, Graph.gap?_eq_none_iff, Node.Complete, Attribute.EntryComplete]

/-! ### The first gap is found -/

theorem Attribute.entryGap?_eq_some_iff {opType : String} {entry : String × Attribute}
    {gap : Gap} :
    Attribute.entryGap? opType entry = some gap ↔
      (entry.1 = "" ∧ .attributeName opType = gap) ∨
        (entry.1 ≠ "" ∧ ∃ body, entry.2.body? = some body ∧ body.gap? = some gap) := by
  unfold Attribute.entryGap?
  split
  · next unnamed => simp [unnamed]
  · next named => simp [named, Option.bind_eq_some_iff]

theorem Node.gap?_eq_some_iff {node : Node} {gap : Gap} :
    node.gap? = some gap ↔
      (node.opType = "" ∧ .opType node.outputs = gap) ∨
        (node.opType ≠ "" ∧ ∃ entry, FirstPast Attribute.EntryComplete node.attributes entry ∧
          Attribute.entryGap? node.opType entry = some gap) := by
  rw [Node.gap?_eq]
  split
  · next missing => simp [missing]
  · next operator =>
    rw [findSome?_eq_some_iff_firstPast fun _ => Attribute.entryGap?_eq_none_iff_complete]
    simp [operator]

/-- A gap is in the name of a graph, in a node, in an input, or in an output. -/
theorem Graph.gap?_eq_some_iff_parts {g : Graph} {gap : Gap} :
    g.gap? = some gap ↔
      (g.name = "" ∧ .graphName = gap) ∨ (∃ node, g.ComesTo node ∧ node.gap? = some gap) ∨
        (g.ComesToValues ∧ ∃ v, FirstPast (·.type ≠ .undefined) g.inputs v ∧
          v.gap? = some gap) ∨
        (g.ComesToValues ∧ (∀ v ∈ g.inputs, v.type ≠ .undefined) ∧
          ∃ v, FirstPast (·.type ≠ .undefined) g.outputs v ∧ v.gap? = some gap) := by
  have values (vs : List ValueInfo) : vs.findSome? ValueInfo.gap? = some gap ↔
      ∃ v, FirstPast (·.type ≠ .undefined) vs v ∧ v.gap? = some gap :=
    findSome?_eq_some_iff_firstPast fun _ => ValueInfo.gap?_eq_none_iff
  have complete : g.nodes.findSome? Node.gap? = none ↔ ∀ node ∈ g.nodes, node.Complete := by
    rw [List.findSome?_eq_none_iff]
    exact forall₂_congr fun node _ => Node.gap?_eq_none_iff_complete
  have inputs : g.inputs.findSome? ValueInfo.gap? = none ↔
      ∀ v ∈ g.inputs, v.type ≠ .undefined := by
    rw [List.findSome?_eq_none_iff]
    exact forall₂_congr fun v _ => ValueInfo.gap?_eq_none_iff
  rw [Graph.gap?_eq]
  unfold Graph.ComesTo Graph.ComesToValues
  split
  · next unnamed => simp [unnamed]
  · next named =>
    rw [List.findSome?_append, Option.or_eq_some_iff, Option.or_eq_some_iff, complete, inputs,
      values, values, findSome?_eq_some_iff_firstPast fun _ => Node.gap?_eq_none_iff_complete]
    simp only [named, false_and, false_or, ne_eq, not_false_eq_true, true_and, and_or_left]

theorem Graph.firstGap_of_gap? {g : Graph} {gap : Gap} (found : g.gap? = some gap) :
    g.FirstGap gap := by
  induction g using Graph.inductionOnBodies with
  | step g ih =>
    rcases Graph.gap?_eq_some_iff_parts.1 found with ⟨unnamed, rfl⟩ | ⟨node, reached, found⟩ |
      ⟨reached, v, first, found⟩ | ⟨reached, inputs, v, first, found⟩
    · exact .graphName unnamed
    · rcases Node.gap?_eq_some_iff.1 found with ⟨missing, rfl⟩ | ⟨operator, entry, first, found⟩
      · exact .opType reached missing
      · have comes : g.ComesToEntry node entry := ⟨reached, operator, first⟩
        rcases Attribute.entryGap?_eq_some_iff.1 found with ⟨unnamed, rfl⟩ |
          ⟨named, body, held, found⟩
        · exact .attributeName comes unnamed
        · refine .body comes named held (ih body ?_ found)
          obtain ⟨-, _, _, split, -⟩ := reached
          obtain ⟨_, _, table, -⟩ := first
          refine List.mem_flatMap.2 ⟨node, by simp [split], ?_⟩
          exact List.mem_filterMap.2 ⟨entry, by simp [table], held⟩
    · obtain ⟨undefined, rfl⟩ := ValueInfo.gap?_eq_some_iff.1 found
      exact .input reached first undefined
    · obtain ⟨undefined, rfl⟩ := ValueInfo.gap?_eq_some_iff.1 found
      exact .output reached inputs first undefined

/-- What is found is what is missing first. -/
theorem Graph.gap?_eq_some_iff {g : Graph} {gap : Gap} : g.gap? = some gap ↔ g.FirstGap gap := by
  refine ⟨Graph.firstGap_of_gap?, fun first => ?_⟩
  have ofEntry {g : Graph} {node : Node} {entry : String × Attribute} {gap : Gap}
      (reached : g.ComesToEntry node entry)
      (found : Attribute.entryGap? node.opType entry = some gap) : g.gap? = some gap := by
    obtain ⟨comes, operator, first⟩ := reached
    have inNode := Node.gap?_eq_some_iff.2 (.inr ⟨operator, entry, first, found⟩)
    exact Graph.gap?_eq_some_iff_parts.2 (.inr (.inl ⟨node, comes, inNode⟩))
  induction first with
  | graphName unnamed => exact Graph.gap?_eq_some_iff_parts.2 (.inl ⟨unnamed, rfl⟩)
  | opType reached missing =>
    have inNode := Node.gap?_eq_some_iff.2 (.inl ⟨missing, rfl⟩)
    exact Graph.gap?_eq_some_iff_parts.2 (.inr (.inl ⟨_, reached, inNode⟩))
  | attributeName reached unnamed =>
    exact ofEntry reached (Attribute.entryGap?_eq_some_iff.2 (.inl ⟨unnamed, rfl⟩))
  | body reached named held _ ih =>
    exact ofEntry reached (Attribute.entryGap?_eq_some_iff.2 (.inr ⟨named, _, held, ih⟩))
  | input reached first undefined =>
    have inValue := ValueInfo.gap?_eq_some_iff.2 ⟨undefined, rfl⟩
    exact Graph.gap?_eq_some_iff_parts.2 (.inr (.inr (.inl ⟨reached, _, first, inValue⟩)))
  | output reached inputs first undefined =>
    have inValue := ValueInfo.gap?_eq_some_iff.2 ⟨undefined, rfl⟩
    exact Graph.gap?_eq_some_iff_parts.2 (.inr (.inr (.inr ⟨reached, inputs, _, first, inValue⟩)))

/-! ### What comes of a model -/

namespace Model

/-- A model is written exactly if the scopes of its graph are right and nothing is missing in it,
at any depth. A model whose scopes are wrong is refused for that, whatever else is wrong with it,
and one whose scopes are right for what is missing first. -/
theorem encode_outcome_iff (versions : Versions) (m : Model) :
    ((∃ bytes, m.encode versions = .ok bytes) ↔
      m.graph.validate = .ok () ∧ m.graph.Everywhere Graph.Complete) ∧
    ∀ refusal, m.encode versions = .error refusal ↔
      (∃ cause, m.graph.validate = .error cause ∧ refusal = .invalid cause) ∨
        (m.graph.validate = .ok () ∧ ∃ gap, m.graph.FirstGap gap ∧ refusal = .incomplete gap) := by
  rw [← Graph.gap?_eq_none_iff, encode]
  simp only [← Graph.gap?_eq_some_iff]
  cases m.graph.validate with
  | error cause => simp [eq_comm]
  | ok _ => cases m.graph.gap? <;> simp [eq_comm]

end Model

end OnnxCorpus
