import Mathlib.Data.List.Perm.Lattice
import OnnxCorpus.Proofs.Scope.Surroundings

/-!
# The order of independent nodes

Two nodes next to each other may change places if the second uses nothing that the first defines,
and the bodies of the first define nothing that the second defines. `Graph.Exchanges` says that one
graph comes from another by such a change, in the graph itself or in a body at any depth. What was
accepted is accepted after it (`Graph.validate_of_exchanges`).
-/

namespace OnnxCorpus

/-! ### Places in a list of nodes -/

namespace Node

theorem forall_split_append_iff {first nodes : List Node} {p : List Node → Node → Prop} :
    (∀ before n after, first ++ nodes = before ++ n :: after → p before n) ↔
      (∀ before n after, first = before ++ n :: after → p before n) ∧
        ∀ before n after, nodes = before ++ n :: after → p (first ++ before) n := by
  induction first generalizing p with
  | nil => simp
  | cons m first ih =>
    rw [List.cons_append, forall_split_cons_iff, forall_split_cons_iff, ih, and_assoc]
    rfl

theorem definedNames_append (first nodes : List Node) :
    definedNames (first ++ nodes) = definedNames first ++ definedNames nodes :=
  List.flatMap_append

theorem mem_definedNames_singleton {node : Node} {n : String} :
    n ∈ definedNames [node] ↔ n ∈ node.outputs ∧ n ≠ "" := by
  simp [definedNames, Scope.present]

end Node

namespace Graph

variable {g g' : Graph} {outer : Set String} {nodes before after : List Node} {n : String}

theorem visibleAfter_congr (same : ∀ n, n ∈ Node.definedNames nodes ↔ n ∈ Node.definedNames before) :
    g.visibleAfter outer nodes = g.visibleAfter outer before := by
  ext n
  exact or_congr_right (or_congr_right (same n))

theorem mem_visibleAfter_append_iff :
    n ∈ g.visibleAfter outer (before ++ nodes) ↔
      n ∈ g.visibleAfter outer before ∨ n ∈ Node.definedNames nodes := by
  change (_ ∨ _ ∨ _) ↔ (_ ∨ _ ∨ _) ∨ _
  rw [Node.definedNames_append, List.mem_append, or_assoc, or_assoc]

/-- The nodes of a graph can be replaced by others that define the same names, each of which can
stand where it does. -/
theorem WellScoped.withNodes (right : g.WellScoped outer)
    (same : (Node.definedNames nodes).Perm (Node.definedNames g.nodes))
    (placed : ∀ before node after, nodes = before ++ node :: after →
      node.WellPlaced (g.visibleAfter outer before)) :
    ({ g with nodes } : Graph).WellScoped outer := by
  obtain ⟨outputs, inputs, initializers, -, -, once, fresh, given⟩ := right
  refine .intro outputs inputs initializers ?_ ?_ ?_ ?_ ?_
  · exact fun before node after split => (placed before node after split).used
  · exact fun before node after split => (placed before node after split).bodies
  · exact same.nodup_iff.2 once
  · exact fun n defined => fresh n (same.mem_iff.1 defined)
  · intro v declared
    have everything : g.visibleAfter outer nodes = g.visibleAfter outer g.nodes :=
      visibleAfter_congr fun n => same.mem_iff
    exact everything ▸ given v declared

end Graph

/-! ### Independent nodes -/

/-- A node and the one after it do not depend on their order: what the first defines is neither an
input of the second nor used in its bodies, at any depth, and what the second defines is not defined
in the bodies of the first. -/
structure Node.Independent (a b : Node) : Prop where
  inputs : ∀ n ∈ a.outputs, n ≠ "" → n ∉ b.inputs
  used : ∀ body ∈ b.bodies, body.Everywhere fun h => ∀ n ∈ a.outputs, n ≠ "" → ¬h.Uses n
  defined : ∀ body ∈ a.bodies, body.Everywhere fun h =>
    ∀ n ∈ b.outputs, n ∉ definedNames h.nodes

namespace Graph

/-- A graph becomes another one by letting two independent nodes that are next to each other change
places, its own or those of a body at any depth. -/
inductive Exchanges : Graph → Graph → Prop
  | here {g : Graph} {before after : List Node} {a b : Node}
      (split : g.nodes = before ++ a :: b :: after) (independent : a.Independent b) :
      Exchanges g { g with nodes := before ++ b :: a :: after }
  | inside {g body body' : Graph} {before after : List Node} {node : Node} {name : String}
      {earlier later : List (String × Attribute)} (split : g.nodes = before ++ node :: after)
      (held : node.attributes = earlier ++ (name, .graph body) :: later)
      (within : Exchanges body body') :
      Exchanges g { g with nodes :=
        before ++ { node with attributes := earlier ++ (name, .graph body') :: later } :: after }

variable {g g' : Graph} {outer : Set String} {before after : List Node} {a b : Node}

/-- A node that comes first can come second as well. -/
theorem wellPlaced_second (independent : a.Independent b)
    (first : a.WellPlaced (g.visibleAfter outer before)) :
    a.WellPlaced (g.visibleAfter outer (before ++ [b])) := by
  refine first.weaken (fun n visible => mem_visibleAfter_append_iff.2 (.inl visible)) ?_
  intro body held entry member n defined visible
  rcases mem_visibleAfter_append_iff.1 visible with earlier | new
  · exact earlier
  · have output := (Node.mem_definedNames_singleton.1 new).1
    exact absurd defined (independent.defined body held entry member n output)

/-- A node that comes second can come first if it does not depend on the other one. -/
theorem wellPlaced_first (independent : a.Independent b)
    (second : b.WellPlaced (g.visibleAfter outer (before ++ [a]))) :
    b.WellPlaced (g.visibleAfter outer before) := by
  have earlier {n : String} (visible : n ∈ g.visibleAfter outer (before ++ [a]))
      (other : n ∈ a.outputs → n ≠ "" → False) : n ∈ g.visibleAfter outer before := by
    rcases mem_visibleAfter_append_iff.1 visible with earlier | new
    · exact earlier
    · obtain ⟨output, named⟩ := Node.mem_definedNames_singleton.1 new
      exact (other output named).elim
  refine second.strengthen (fun n visible => mem_visibleAfter_append_iff.2 (.inl visible)) ?_ ?_
  · exact fun n input visible => earlier visible fun output named =>
      independent.inputs n output named input
  · exact fun body held entry member n used visible => earlier visible fun output named =>
      independent.used body held entry member n output named used

/-- Independent nodes of a graph that are next to each other can change places. -/
theorem WellScoped.exchange (right : g.WellScoped outer)
    (split : g.nodes = before ++ a :: b :: after) (independent : a.Independent b) :
    ({ g with nodes := before ++ b :: a :: after } : Graph).WellScoped outer := by
  have permuted (rest : List Node) : (Node.definedNames (before ++ b :: a :: rest)).Perm
      (Node.definedNames (before ++ a :: b :: rest)) :=
    ((List.Perm.swap a b rest).append_left before).flatMap_right _
  refine right.withNodes (split ▸ permuted after) ?_
  rw [Node.forall_split_append_iff, Node.forall_split_cons_iff, Node.forall_split_cons_iff]
  refine ⟨?_, ?_, ?_, ?_⟩
  · rintro earlier node later rfl
    have place : g.nodes = earlier ++ node :: (later ++ a :: b :: after) := by simp [split]
    exact right.placed place
  · have place : g.nodes = (before ++ [a]) ++ b :: after := by simp [split]
    rw [List.append_nil]
    exact wellPlaced_first independent (right.placed place)
  · exact wellPlaced_second independent (right.placed split)
  · rintro earlier node later rfl
    have place : g.nodes = (before ++ a :: b :: earlier) ++ node :: later := by simp [split]
    rw [visibleAfter_congr fun n => (permuted earlier).mem_iff]
    exact right.placed place

/-- A body can be replaced by one that is well scoped wherever it was. -/
theorem WellScoped.replaceBody {body body' : Graph} {node : Node} {name : String}
    {earlier later : List (String × Attribute)} (right : g.WellScoped outer)
    (split : g.nodes = before ++ node :: after)
    (held : node.attributes = earlier ++ (name, .graph body) :: later)
    (within : ∀ visible, body.WellScoped visible → body'.WellScoped visible) :
    ({ g with nodes :=
      before ++ { node with attributes := earlier ++ (name, .graph body') :: later } :: after } :
        Graph).WellScoped outer := by
  have same (rest : List Node) : Node.definedNames
      (before ++ { node with attributes := earlier ++ (name, .graph body') :: later } :: rest) =
        Node.definedNames (before ++ node :: rest) := by
    simp [Node.definedNames]
  refine right.withNodes (by rw [split, same]) ?_
  rw [Node.forall_split_append_iff, Node.forall_split_cons_iff]
  refine ⟨?_, ?_, ?_⟩
  · rintro front n rest rfl
    have place : g.nodes = front ++ n :: (rest ++ node :: after) := by simp [split]
    exact right.placed place
  · have here := right.placed split
    rw [List.append_nil]
    refine ⟨here.used, ?_⟩
    have bodies := here.bodies
    simp only [Node.bodies, held, List.filterMap_append, List.filterMap_cons, Attribute.body?,
      List.forall_mem_append, List.forall_mem_cons] at bodies ⊢
    exact ⟨bodies.1, within _ bodies.2.1, bodies.2.2⟩
  · rintro front n rest rfl
    have place : g.nodes = (before ++ node :: front) ++ n :: rest := by simp [split]
    rw [visibleAfter_congr fun m => Iff.of_eq (congrArg (m ∈ ·) (same front))]
    exact right.placed place

theorem WellScoped.of_exchanges (exchanged : g.Exchanges g') (right : g.WellScoped outer) :
    g'.WellScoped outer := by
  induction exchanged generalizing outer with
  | here split independent => exact right.exchange split independent
  | inside split held _ ih => exact right.replaceBody split held fun _ inner => ih inner

/-- An accepted graph stays accepted when independent nodes next to each other change places, its
own or those of a body at any depth. -/
theorem validate_of_exchanges (valid : g.validate = .ok ()) (exchanged : g.Exchanges g') :
    g'.validate = .ok () := by
  rw [validate_eq_ok_iff] at valid ⊢
  exact valid.of_exchanges exchanged

/-- A node with a body that applies an operator to a value around it. -/
def choosing (opType output : String) : Node :=
  (Node.new "If" ["c"] [output]).attr "then_branch"
    (.graph ⟨"inner", [.new opType ["x"] ["r"]], [], [.scalar "r" .f32], []⟩)

/-- A body with the given nodes and two outputs. -/
def branch (nodes : List Node) : Graph :=
  ⟨"branch", nodes, [], [.scalar "p" .f32, .scalar "q" .f32], []⟩

/-- A graph whose only node has a body with the given nodes. -/
def nesting (nodes : List Node) : Graph :=
  ⟨"g", [(Node.new "If" ["c"] ["y"]).attr "then_branch" (.graph (branch nodes))],
    [.scalar "c" .bool, .scalar "x" .f32], [.scalar "y" .f32], []⟩

theorem validate_nesting_exchanged :
    (nesting [choosing "Neg" "p", choosing "Abs" "q"]).validate = .ok () ∧
      (nesting [choosing "Neg" "p", choosing "Abs" "q"]).Exchanges
        (nesting [choosing "Abs" "q", choosing "Neg" "p"]) ∧
      (nesting [choosing "Abs" "q", choosing "Neg" "p"]).validate = .ok () := by
  have valid : (nesting [choosing "Neg" "p", choosing "Abs" "q"]).validate = .ok () := by decide
  have independent : (choosing "Neg" "p").Independent (choosing "Abs" "q") :=
    ⟨by decide, by decide, by decide⟩
  have pair : (branch [choosing "Neg" "p", choosing "Abs" "q"]).nodes = [] ++ _ :: _ :: [] := rfl
  have inner : (branch [choosing "Neg" "p", choosing "Abs" "q"]).Exchanges
      (branch [choosing "Abs" "q", choosing "Neg" "p"]) := .here pair independent
  have alone : (nesting [choosing "Neg" "p", choosing "Abs" "q"]).nodes = [] ++ _ :: [] := rfl
  have held : (Node.new "If" ["c"] ["y"] |>.attr "then_branch"
      (.graph (branch [choosing "Neg" "p", choosing "Abs" "q"]))).attributes = [] ++ _ :: [] := rfl
  have exchanged : (nesting [choosing "Neg" "p", choosing "Abs" "q"]).Exchanges
      (nesting [choosing "Abs" "q", choosing "Neg" "p"]) := .inside alone held inner
  exact ⟨valid, exchanged, validate_of_exchanges valid exchanged⟩

end Graph

end OnnxCorpus
