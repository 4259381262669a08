import Mathlib.Data.List.Find
import OnnxCorpus.Proofs.Scope.WellScoped

/-!
# The names around a graph

A graph that is well scoped inside some names is well scoped inside more of them, unless one of its
nodes, or a node of a body at any depth, defines a new one (`Graph.WellScoped.weaken`). It is well
scoped inside fewer of them, unless one that is gone is used at some depth
(`Graph.WellScoped.strengthen`). What the names around a node allow it is `Node.WellPlaced`, and the
two laws carry over to nodes. A name that is neither defined nor used at any depth makes no
difference at all, not even to the error that a graph is refused with (`Graph.check_congr`).
-/

namespace OnnxCorpus

namespace Graph

/-- A name is an input of a node of a graph itself or a declared output of it. -/
def Uses (g : Graph) (n : String) : Prop :=
  (∃ node ∈ g.nodes, n ∈ node.inputs) ∨ n ∈ g.outputs.map (·.name)

instance (g : Graph) (n : String) : Decidable (g.Uses n) :=
  inferInstanceAs (Decidable ((∃ node ∈ g.nodes, n ∈ node.inputs) ∨ n ∈ g.outputs.map (·.name)))

variable {g body : Graph} {outer wider : Set String} {before : List Node} {n : String}

theorem visibleAfter_mono (within : outer ⊆ wider) :
    g.visibleAfter outer before ⊆ g.visibleAfter wider before := by
  rintro n (around | own)
  · exact .inl (within around)
  · exact .inr own

/-- A name that is visible inside more names and not inside fewer is one of those that were added. -/
theorem mem_visibleAfter_of_wider (visible : n ∈ g.visibleAfter wider before)
    (kept : n ∈ wider → n ∈ outer) : n ∈ g.visibleAfter outer before := by
  rcases visible with around | own
  · exact .inl (kept around)
  · exact .inr own

theorem Everywhere.inside {p : Graph → Prop} (all : g.Everywhere p) {after : List Node} {node : Node}
    (split : g.nodes = before ++ node :: after) (held : body ∈ node.bodies) :
    body.Everywhere p := by
  refine (everywhere_iff.1 all).2 body (List.mem_flatMap.2 ⟨node, ?_, held⟩)
  simp [split]

namespace WellScoped

/-- More names around a graph do no harm if no node inside it, at any depth, defines one of them. -/
theorem weaken (right : g.WellScoped outer) (within : outer ⊆ wider)
    (fresh : g.Everywhere fun h => ∀ n ∈ Node.definedNames h.nodes, n ∈ wider → n ∈ outer) :
    g.WellScoped wider := by
  induction right generalizing wider with
  | @intro outer g outputs inputs initializers used bodies once apart given ih =>
    have own := (everywhere_iff.1 fresh).1
    refine .intro outputs inputs initializers ?_ ?_ once ?_ ?_
    · exact fun before node after split n held named =>
        visibleAfter_mono within (used before node after split n held named)
    · intro before node after split body held
      refine ih before node after split body held (visibleAfter_mono within) ?_
      intro entry member n defined visible
      exact mem_visibleAfter_of_wider visible (fresh.inside split held entry member n defined)
    · exact fun n defined =>
        ⟨fun around => (apart n defined).1 (own n defined around), (apart n defined).2⟩
    · exact fun v declared => visibleAfter_mono within (given v declared)

/-- Fewer names around a graph do no harm if none of those that are gone is used inside it, at any
depth. -/
theorem strengthen (right : g.WellScoped wider) (within : outer ⊆ wider)
    (unused : g.Everywhere fun h => ∀ n, h.Uses n → n ∈ wider → n ∈ outer) :
    g.WellScoped outer := by
  induction right generalizing outer with
  | @intro wider g outputs inputs initializers used bodies once apart given ih =>
    have own := (everywhere_iff.1 unused).1
    refine .intro outputs inputs initializers ?_ ?_ once ?_ ?_
    · intro before node after split n held named
      have among : node ∈ g.nodes := by simp [split]
      exact mem_visibleAfter_of_wider (used before node after split n held named)
        (own n (.inl ⟨node, among, held⟩))
    · intro before node after split body held
      refine ih before node after split body held (visibleAfter_mono within) ?_
      intro entry member n mentioned visible
      exact mem_visibleAfter_of_wider visible (unused.inside split held entry member n mentioned)
    · exact fun n defined => ⟨fun around => (apart n defined).1 (within around), (apart n defined).2⟩
    · exact fun v declared => mem_visibleAfter_of_wider (given v declared)
        (own v.name (.inr (List.mem_map_of_mem declared)))

end WellScoped

end Graph

/-! ### Nodes -/

namespace Node

/-- A node can stand where some names are visible: its inputs are among them, and its bodies are
well scoped inside them. -/
structure WellPlaced (visible : Set String) (node : Node) : Prop where
  used : ∀ n ∈ node.inputs, n ≠ "" → n ∈ visible
  bodies : ∀ body ∈ node.bodies, body.WellScoped visible

variable {visible wider : Set String} {node : Node}

theorem WellPlaced.weaken (right : node.WellPlaced visible) (within : visible ⊆ wider)
    (fresh : ∀ body ∈ node.bodies, body.Everywhere fun h =>
      ∀ n ∈ definedNames h.nodes, n ∈ wider → n ∈ visible) : node.WellPlaced wider where
  used n held named := within (right.used n held named)
  bodies body held := (right.bodies body held).weaken within (fresh body held)

theorem WellPlaced.strengthen (right : node.WellPlaced wider) (within : visible ⊆ wider)
    (inputs : ∀ n ∈ node.inputs, n ∈ wider → n ∈ visible)
    (unused : ∀ body ∈ node.bodies, body.Everywhere fun h =>
      ∀ n, h.Uses n → n ∈ wider → n ∈ visible) : node.WellPlaced visible where
  used n held named := inputs n held (right.used n held named)
  bodies body held := (right.bodies body held).strengthen within (unused body held)

end Node

theorem Graph.WellScoped.placed {g : Graph} {outer : Set String} {before after : List Node}
    {node : Node} (right : g.WellScoped outer) (split : g.nodes = before ++ node :: after) :
    node.WellPlaced (g.visibleAfter outer before) := by
  obtain ⟨_, _, _, used, bodies⟩ := right
  exact ⟨used before node after split, bodies before node after split⟩

/-! ### Names that make no difference -/

namespace Scope

variable {graph opType : String} {names visible visible' outer other own : List String}

theorem resolve_congr (same : ∀ n ∈ names, n ∈ visible ↔ n ∈ visible') :
    resolve graph opType visible names = resolve graph opType visible' names := by
  have found : names.find? (· ∉ visible) = names.find? (· ∉ visible') :=
    List.find?_congr fun n member => by rw [decide_eq_decide, same n member]
  rw [resolve, resolve, found]

theorem define_congr (same : ∀ n ∈ names, n ∈ outer ↔ n ∈ other) :
    define graph outer own names = define graph other own names := by
  induction names generalizing own with
  | nil => rfl
  | cons n rest ih =>
    obtain ⟨here, later⟩ := List.forall_mem_cons.1 same
    rw [define, define, ih later]
    simp only [here]

end Scope

theorem Attribute.checkAll_congr {outer other : List String} {table : List (String × Attribute)}
    (same : ∀ body ∈ table.filterMap fun entry => entry.2.body?,
      body.check outer = body.check other) :
    checkAll outer table = checkAll other table := by
  induction table with
  | nil => rfl
  | cons entry rest ih =>
    obtain ⟨name, value⟩ := entry
    rw [List.filterMap_cons] at same
    cases value with
    | graph body =>
      obtain ⟨here, later⟩ := List.forall_mem_cons.1 same
      rw [checkAll, checkAll, check, check, here, ih later]
    | float | int | string | floats | ints | strings | tensor =>
      rw [checkAll, checkAll, check, check, ih same]

namespace Node

variable {graph : String} {outer other own : List String}

theorem check_congr {node : Node} (used : ∀ n ∈ node.inputs, n ∈ outer ↔ n ∈ other)
    (defined : ∀ n ∈ Scope.present node.outputs, n ∈ outer ↔ n ∈ other)
    (bodies : ∀ body ∈ node.bodies, body.check (own ++ outer) = body.check (own ++ other)) :
    node.check graph outer own = node.check graph other own := by
  obtain ⟨name, opType, inputs, outputs, attributes⟩ := node
  have visible (n : String) (member : n ∈ Scope.present inputs) :
      n ∈ own ++ outer ↔ n ∈ own ++ other := by
    rw [List.mem_append, List.mem_append, used n (List.mem_of_mem_filter member)]
  rw [check, check, Scope.resolve_congr visible, Attribute.checkAll_congr bodies,
    Scope.define_congr defined]

theorem checkAll_congr {nodes : List Node}
    (used : ∀ node ∈ nodes, ∀ n ∈ node.inputs, n ∈ outer ↔ n ∈ other)
    (defined : ∀ n ∈ definedNames nodes, n ∈ outer ↔ n ∈ other)
    (bodies : ∀ own, ∀ body ∈ nodes.flatMap Node.bodies,
      body.check (own ++ outer) = body.check (own ++ other)) :
    checkAll graph outer own nodes = checkAll graph other own nodes := by
  induction nodes generalizing own with
  | nil => rfl
  | cons node rest ih =>
    obtain ⟨usedHere, usedLater⟩ := List.forall_mem_cons.1 used
    have definedHere (n : String) (member : n ∈ Scope.present node.outputs) :=
      defined n (List.mem_append_left _ member)
    have first : node.check graph outer own = node.check graph other own :=
      check_congr usedHere definedHere fun body held =>
        bodies own body (List.mem_append_left _ held)
    have later (own : List String) : checkAll graph outer own rest = checkAll graph other own rest :=
      ih usedLater (fun n member => defined n (List.mem_append_right _ member))
        fun own body held => bodies own body (List.mem_append_right _ held)
    rw [checkAll, checkAll, first]
    simp only [later]

end Node

namespace Graph

/-- A name is neither defined by a node of a graph nor used in it, at any depth. -/
def Ignores (g : Graph) (n : String) : Prop :=
  g.Everywhere fun h => n ∉ Node.definedNames h.nodes ∧ ¬h.Uses n

instance (g : Graph) (n : String) : Decidable (g.Ignores n) :=
  inferInstanceAs (Decidable (g.Everywhere fun h => n ∉ Node.definedNames h.nodes ∧ ¬h.Uses n))

/-- The checks of a graph end in the same way, with the same error if they fail, inside names that
are the same but for some that the graph ignores. -/
theorem check_congr {g : Graph} {outer other : List String}
    (same : ∀ n, (n ∈ outer ↔ n ∈ other) ∨ g.Ignores n) : g.check outer = g.check other := by
  induction g using inductionOnBodies generalizing outer other with
  | step g ih =>
    have visible (n : String) (mentioned : n ∈ Node.definedNames g.nodes ∨ g.Uses n) :
        n ∈ outer ↔ n ∈ other := by
      rcases same n with agree | ignored
      · exact agree
      · obtain ⟨undefined, unused⟩ := (everywhere_iff.1 ignored).1
        exact absurd mentioned (not_or.2 ⟨undefined, unused⟩)
    have bodies (own : List String) (body : Graph) (held : body ∈ g.bodies) :
        body.check (own ++ outer) = body.check (own ++ other) := by
      refine ih body held fun n => ?_
      rcases same n with agree | ignored
      · rw [List.mem_append, List.mem_append, agree]
        exact .inl Iff.rfl
      · exact .inr ((everywhere_iff.1 ignored).2 body held)
    have nodes : Node.checkAll g.name outer g.givenNames g.nodes =
        Node.checkAll g.name other g.givenNames g.nodes :=
      Node.checkAll_congr
        (fun node member n held => visible n (.inr (.inl ⟨node, member, held⟩)))
        (fun n defined => visible n (.inl defined)) bodies
    have outputs (own : List String) (n : String) (declared : n ∈ g.outputs.map (·.name)) :
        n ∈ own ++ outer ↔ n ∈ own ++ other := by
      rw [List.mem_append, List.mem_append, visible n (.inr (.inr declared))]
    obtain ⟨name, nodes', inputs, outputs', initializers⟩ := g
    rw [check, check]
    simp only [givenNames] at nodes
    simp only [nodes, Scope.resolve_congr (outputs _)]

/-- A graph that is accepted inside some names is accepted inside more of them unless a node defines
one that is new, at some depth, and inside fewer of them unless one that is gone is used at some
depth. Inside names that differ only in some that it neither defines nor uses, its checks end in the
same way. -/
theorem check_wider {g : Graph} {outer wider : List String} (within : outer ⊆ wider) :
    (g.check outer = .ok () →
      (∀ n ∈ wider, n ∉ outer → g.Everywhere fun h => n ∉ Node.definedNames h.nodes) →
        g.check wider = .ok ()) ∧
    (g.check wider = .ok () →
      (∀ n ∈ wider, n ∉ outer → g.Everywhere fun h => ¬h.Uses n) → g.check outer = .ok ()) ∧
    ((∀ n ∈ wider, n ∉ outer → g.Ignores n) → g.check outer = g.check wider) := by
  refine ⟨fun right fresh => ?_, fun right unused => ?_, fun ignored => ?_⟩
  · rw [check_eq_ok_iff] at right ⊢
    refine right.weaken (fun n around => within around) fun entry member n defined around => ?_
    by_contra new
    exact fresh n around new entry member defined
  · rw [check_eq_ok_iff] at right ⊢
    refine right.strengthen (fun n around => within around) fun entry member n used around => ?_
    by_contra gone
    exact unused n around gone entry member used
  · refine check_congr fun n => ?_
    by_cases around : n ∈ outer
    · exact .inl (iff_of_true around (within around))
    · by_cases added : n ∈ wider
      · exact .inr (ignored n added around)
      · exact .inl (iff_of_false around added)

/-- A node with a body that uses a value from outside both graphs. -/
def wrapping : Graph :=
  ⟨"g", [(Node.new "If" ["c"] ["y"]).attr "then_branch" (.graph
    ⟨"branch", [.new "Abs" ["x"] ["z"]], [], [.scalar "z" .f32], []⟩)],
    [], [.scalar "y" .f32], []⟩

theorem check_wider_wrapping :
    ["c", "x"] ⊆ ["w", "c", "x"] ∧ wrapping.check ["w", "c", "x"] = .ok () ∧
      wrapping.check ["c", "x"] = .ok () ∧
      wrapping.check ["c", "x"] = wrapping.check ["w", "c", "x"] := by
  have within : ["c", "x"] ⊆ ["w", "c", "x"] := by decide
  obtain ⟨weaken, strengthen, same⟩ := check_wider (g := wrapping) within
  have accepted : wrapping.check ["w", "c", "x"] = .ok () := weaken (by decide) (by decide)
  exact ⟨within, accepted, strengthen accepted (by decide), same (by decide)⟩

end Graph

end OnnxCorpus
