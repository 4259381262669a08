import OnnxCorpus.Graph

/-!
# Bodies

A body is a graph inside an attribute, and bodies nest. This file gives the bodies of a graph and
of its nodes, the graphs at every depth below a graph with their depths (`Graph.nested`), and the
induction that goes from the bodies of a graph to the graph (`Graph.inductionOnBodies`).
-/

namespace OnnxCorpus

/-- The graph that an attribute holds. -/
def Attribute.body? : Attribute → Option Graph
  | .graph body => some body
  | _ => none

/-- The tensor that an attribute holds. -/
def Attribute.tensor? : Attribute → Option Tensor
  | .tensor value => some value
  | _ => none

/-- The bodies of a node, in the order of its attributes. -/
def Node.bodies (node : Node) : List Graph :=
  node.attributes.filterMap fun entry => entry.2.body?

/-- The tensors among the attributes of a node. -/
def Node.tensors (node : Node) : List Tensor :=
  node.attributes.filterMap fun entry => entry.2.tensor?

namespace Graph

/-- The bodies of the nodes of a graph. -/
def bodies (g : Graph) : List Graph :=
  g.nodes.flatMap Node.bodies

/-- The tensors of a graph itself: its initializers, and those in the attributes of its nodes. -/
def tensors (g : Graph) : List Tensor :=
  g.initializers ++ g.nodes.flatMap Node.tensors

/-- The dims of the inputs and outputs of a graph. -/
def dims (g : Graph) : List Dim :=
  (g.inputs ++ g.outputs).flatMap (·.shape)

end Graph

mutual

/-- A graph at depth zero, and every graph inside it at its depth. -/
def Graph.nested : Graph → List (Nat × Graph)
  | ⟨name, nodes, inputs, outputs, initializers⟩ =>
    (0, ⟨name, nodes, inputs, outputs, initializers⟩) :: Node.nestedAll nodes
termination_by structural g => g

/-- The bodies of some nodes and the graphs inside them, each at its depth. -/
def Node.nestedAll : List Node → List (Nat × Graph)
  | [] => []
  | node :: rest => node.nested ++ Node.nestedAll rest
termination_by structural nodes => nodes

/-- The bodies of a node and the graphs inside them, each at its depth. -/
def Node.nested : Node → List (Nat × Graph)
  | ⟨_, _, _, _, attributes⟩ => Attribute.nestedAll attributes
termination_by structural n => n

/-- The bodies among some attributes and the graphs inside them, each at its depth. -/
def Attribute.nestedAll : List (String × Attribute) → List (Nat × Graph)
  | [] => []
  | (_, value) :: rest => value.nested ++ Attribute.nestedAll rest
termination_by structural table => table

/-- The graphs inside a body are one deeper in the graph that owns it. -/
def Attribute.nested : Attribute → List (Nat × Graph)
  | .graph body => body.nested.map fun (depth, g) => (depth + 1, g)
  | .float _ | .int _ | .string _ | .floats _ | .ints _ | .strings _ | .tensor _ => []
termination_by structural a => a

end

theorem Node.mem_bodies_iff {node : Node} {body : Graph} :
    body ∈ node.bodies ↔ ∃ name, (name, .graph body) ∈ node.attributes := by
  simp only [Node.bodies, List.mem_filterMap, Prod.exists]
  constructor
  · rintro ⟨name, value, member, found⟩
    cases value <;> simp only [Attribute.body?, Option.some.injEq, reduceCtorEq] at found
    exact ⟨name, found ▸ member⟩
  · rintro ⟨name, member⟩
    exact ⟨name, _, member, rfl⟩

/-! ### Depth -/

theorem Attribute.nested_eq (value : Attribute) :
    value.nested = value.body?.toList.flatMap fun body =>
      body.nested.map fun (depth, g) => (depth + 1, g) := by
  cases value <;> simp [Attribute.nested, Attribute.body?]

theorem Attribute.nestedAll_eq (table : List (String × Attribute)) :
    Attribute.nestedAll table = (table.filterMap fun entry => entry.2.body?).flatMap fun body =>
      body.nested.map fun (depth, g) => (depth + 1, g) := by
  induction table with
  | nil => rfl
  | cons entry rest ih =>
    obtain ⟨name, value⟩ := entry
    rw [Attribute.nestedAll, ih, Attribute.nested_eq, List.filterMap_cons]
    cases value.body? <;> simp

theorem Node.nested_eq (node : Node) :
    node.nested = node.bodies.flatMap fun body =>
      body.nested.map fun (depth, g) => (depth + 1, g) := by
  obtain ⟨_, _, _, _, attributes⟩ := node
  exact Attribute.nestedAll_eq attributes

theorem Node.nestedAll_eq (nodes : List Node) :
    Node.nestedAll nodes = nodes.flatMap Node.nested := by
  induction nodes with
  | nil => rfl
  | cons node rest ih => rw [Node.nestedAll, ih, List.flatMap_cons]

namespace Graph

theorem forall_nested_iff {p : Nat × Graph → Prop} {g : Graph} :
    (∀ entry ∈ g.nested, p entry) ↔
      p (0, g) ∧ ∀ body ∈ g.bodies, ∀ entry ∈ body.nested, p (entry.1 + 1, entry.2) := by
  have here : g.nested = (0, g) :: Node.nestedAll g.nodes := by
    cases g
    rfl
  rw [here, Node.nestedAll_eq, List.forall_mem_cons]
  simp only [List.forall_mem_flatMap, List.forall_mem_map, Node.nested_eq, bodies]

/-- A property of graphs holds at every depth. -/
def Everywhere (p : Graph → Prop) (g : Graph) : Prop :=
  ∀ entry ∈ g.nested, p entry.2

instance (p : Graph → Prop) [DecidablePred p] (g : Graph) : Decidable (g.Everywhere p) :=
  inferInstanceAs (Decidable (∀ entry ∈ g.nested, p entry.2))

/-- No graph is more than `depth` levels below another. -/
def NestsWithin (depth : Nat) (g : Graph) : Prop :=
  ∀ entry ∈ g.nested, entry.1 ≤ depth

instance (depth : Nat) (g : Graph) : Decidable (g.NestsWithin depth) :=
  inferInstanceAs (Decidable (∀ entry ∈ g.nested, entry.1 ≤ depth))

theorem everywhere_iff {p : Graph → Prop} {g : Graph} :
    g.Everywhere p ↔ p g ∧ ∀ body ∈ g.bodies, body.Everywhere p :=
  forall_nested_iff

theorem NestsWithin.body {g body : Graph} {depth : Nat} (nests : g.NestsWithin depth)
    (member : body ∈ g.bodies) : ∃ above, depth = above + 1 ∧ body.NestsWithin above := by
  have inside := (forall_nested_iff.1 nests).2 body member
  have first : 0 + 1 ≤ depth := inside (0, body) (by cases body; exact List.mem_cons_self)
  refine ⟨depth - 1, by omega, fun entry found => ?_⟩
  have := inside entry found
  omega

/-! ### Induction -/

theorem sizeOf_lt_of_mem_bodies {g body : Graph} (member : body ∈ g.bodies) :
    sizeOf body < sizeOf g := by
  obtain ⟨node, among, held⟩ := List.mem_flatMap.1 member
  obtain ⟨name, entry⟩ := Node.mem_bodies_iff.1 held
  have h₁ := List.sizeOf_lt_of_mem entry
  have h₂ := List.sizeOf_lt_of_mem among
  obtain ⟨_, _, _, _, _⟩ := node
  obtain ⟨_, _, _, _, _⟩ := g
  simp at h₁ h₂ ⊢
  omega

/-- What holds of a graph whose bodies it holds of holds of every graph. -/
@[elab_as_elim]
theorem inductionOnBodies {p : Graph → Prop}
    (step : ∀ g : Graph, (∀ body ∈ g.bodies, p body) → p g) (g : Graph) : p g :=
  step g fun body _ => inductionOnBodies step body
termination_by sizeOf g
decreasing_by exact sizeOf_lt_of_mem_bodies ‹_›

end Graph

end OnnxCorpus
