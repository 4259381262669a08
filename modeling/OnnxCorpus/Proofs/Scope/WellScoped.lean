import OnnxCorpus.Proofs.Fallible
import OnnxCorpus.Proofs.Graph.Bodies
import OnnxCorpus.Scope
import Mathlib.Data.Set.Basic

/-!
# Well scoped graphs

`Graph.WellScoped outer g` states the rules of scoping for a graph inside the names `outer`, with
no order of checking in it. The checks of a graph carry the names defined so far from node to node
(`Node.checkAll_eq_ok_iff`), and they pass exactly if the graph is well scoped
(`Graph.check_eq_ok_iff`).
-/

namespace OnnxCorpus

open Fallible

/-! ### The rules -/

/-- The names that nodes define, in order: their outputs that are not left out. -/
def Node.definedNames (nodes : List Node) : List String :=
  nodes.flatMap fun node => Scope.present node.outputs

namespace Graph

/-- The names that a graph inside the names `outer` can use once the nodes `before` have run. -/
def visibleAfter (g : Graph) (outer : Set String) (before : List Node) : Set String :=
  {n | n ∈ outer ∨ n ∈ g.givenNames ∨ n ∈ Node.definedNames before}

/-- The rules of scoping, for a graph inside the names `outer`. An input and an initializer may
share a name, and what a body defines is no name of the graph around it. -/
inductive WellScoped : Set String → Graph → Prop
  | intro {outer : Set String} {g : Graph}
    (outputs : (g.outputs.map (·.name)).Nodup)
    (inputs : (g.inputs.map (·.name)).Nodup)
    (initializers : (g.initializers.map (·.name)).Nodup)
    (used : ∀ before node after, g.nodes = before ++ node :: after →
      ∀ n ∈ node.inputs, n ≠ "" → n ∈ g.visibleAfter outer before)
    (bodies : ∀ before node after, g.nodes = before ++ node :: after →
      ∀ body ∈ node.bodies, WellScoped (g.visibleAfter outer before) body)
    (once : (Node.definedNames g.nodes).Nodup)
    (fresh : ∀ n ∈ Node.definedNames g.nodes, n ∉ outer ∧ n ∉ g.givenNames)
    (given : ∀ v ∈ g.outputs, v.name ∈ g.visibleAfter outer g.nodes) :
    WellScoped outer g

end Graph

/-! ### Single checks -/

namespace Scope

variable {graph opType : String} {names : List String}

theorem repeated?_eq_none_iff {seen : List String} :
    repeated? seen names = none ↔ names.Nodup ∧ ∀ n ∈ names, n ∉ seen := by
  induction names generalizing seen with
  | nil => simp [repeated?]
  | cons n rest ih =>
    rw [repeated?]
    split
    · next found => simp [found]
    · next new =>
      rw [ih, List.nodup_cons, List.forall_mem_cons]
      grind

theorem distinct_eq_ok_iff : distinct graph names = .ok () ↔ names.Nodup := by
  have none_iff : repeated? [] names = none ↔ names.Nodup := by
    simp [repeated?_eq_none_iff]
  rw [← none_iff, distinct]
  cases repeated? [] names <;> simp

theorem resolve_eq_ok_iff {visible : List String} :
    resolve graph opType visible names = .ok () ↔ ∀ n ∈ names, n ∈ visible := by
  have none_iff : names.find? (· ∉ visible) = none ↔ ∀ n ∈ names, n ∈ visible := by
    simp
  rw [← none_iff, resolve]
  cases names.find? (· ∉ visible) <;> simp

theorem define_eq_ok_iff {outer own own' : List String} :
    define graph outer own names = .ok own' ↔
      (names.Nodup ∧ ∀ n ∈ names, n ∉ outer ∧ n ∉ own) ∧ own' = names.reverse ++ own := by
  induction names generalizing own with
  | nil => simp [define, eq_comm]
  | cons n rest ih =>
    rw [define]
    split
    · next taken =>
      have refused : ¬(n ∉ outer ∧ n ∉ own) := by tauto
      simp [refused]
    · next new =>
      rw [ih, List.nodup_cons, List.forall_mem_cons, List.reverse_cons, List.append_assoc]
      grind

end Scope

/-! ### Nodes in order -/

theorem Attribute.checkAll_eq_ok_iff {outer : List String} {table : List (String × Attribute)} :
    checkAll outer table = .ok () ↔
      ∀ body ∈ table.filterMap fun entry => entry.2.body?, body.check outer = .ok () := by
  induction table with
  | nil => simp [checkAll]
  | cons entry rest ih =>
    obtain ⟨name, value⟩ := entry
    rw [checkAll, bind_unit_eq_ok_iff, ih]
    cases value <;> simp [Attribute.check, body?]

namespace Node

variable {graph : String} {outer own own' : List String}

/-- What the checks of a node ask for after some names of its graph are defined. -/
theorem check_eq_ok_iff {node : Node} :
    node.check graph outer own = .ok own' ↔
      ((∀ n ∈ node.inputs, n ≠ "" → n ∈ own ++ outer) ∧
        ∀ body ∈ node.bodies, body.check (own ++ outer) = .ok ()) ∧
      ((Scope.present node.outputs).Nodup ∧
        ∀ n ∈ Scope.present node.outputs, n ∉ outer ∧ n ∉ own) ∧
      own' = (Scope.present node.outputs).reverse ++ own := by
  obtain ⟨name, opType, inputs, outputs, attributes⟩ := node
  have used : (∀ n ∈ Scope.present inputs, n ∈ own ++ outer) ↔
      ∀ n ∈ inputs, n ≠ "" → n ∈ own ++ outer := by
    simp only [Scope.present, List.mem_filter]
    grind
  simp only [check, bind_unit_eq_ok_iff, Scope.resolve_eq_ok_iff, Attribute.checkAll_eq_ok_iff,
    Scope.define_eq_ok_iff, used, bodies]
  exact and_assoc.symm

theorem forall_split_cons_iff {node : Node} {rest : List Node} {p : List Node → Node → Prop} :
    (∀ before n after, node :: rest = before ++ n :: after → p before n) ↔
      p [] node ∧ ∀ before n after, rest = before ++ n :: after → p (node :: before) n := by
  constructor
  · intro all
    exact ⟨all [] node rest rfl, fun before n after split =>
      all (node :: before) n after (by rw [split, List.cons_append])⟩
  · rintro ⟨first, later⟩ (_ | ⟨m, before⟩) n after split
    · obtain ⟨rfl, -⟩ := List.cons.inj split
      exact first
    · obtain ⟨rfl, among⟩ := List.cons.inj split
      exact later before n after among

/-- The names carried along are those given and those that the nodes before have defined, so that
every node is checked against them. -/
theorem checkAll_eq_ok_iff {nodes : List Node} :
    checkAll graph outer own nodes = .ok own' ↔
      (∀ before node after, nodes = before ++ node :: after →
        (∀ n ∈ node.inputs, n ≠ "" → n ∈ (definedNames before).reverse ++ own ++ outer) ∧
          ∀ body ∈ node.bodies,
            body.check ((definedNames before).reverse ++ own ++ outer) = .ok ()) ∧
      ((definedNames nodes).Nodup ∧ ∀ n ∈ definedNames nodes, n ∉ outer ∧ n ∉ own) ∧
      own' = (definedNames nodes).reverse ++ own := by
  induction nodes generalizing own with
  | nil => simp [checkAll, definedNames, eq_comm]
  | cons node rest ih =>
    have defined (nodes : List Node) :
        definedNames (node :: nodes) = Scope.present node.outputs ++ definedNames nodes := rfl
    have none : definedNames [] = [] := rfl
    simp only [checkAll, bind_eq_ok_iff, check_eq_ok_iff, ih, forall_split_cons_iff, defined, none,
      List.reverse_append, List.reverse_nil, List.nil_append, List.append_assoc, List.nodup_append,
      List.forall_mem_append]
    -- What the first node defines is carried along, so the nodes after it are checked for
    -- freshness against it; for all nodes together that is part of their names being distinct.
    constructor
    · rintro ⟨_, ⟨first, ⟨once, fresh⟩, rfl⟩, later, ⟨once', fresh'⟩, rfl⟩
      refine ⟨⟨first, by simpa only [List.append_assoc] using later⟩,
        ⟨⟨once, once', ?_⟩, fresh, ?_⟩, rfl⟩
      · rintro n here _ there rfl
        exact (fresh' n there).2 (List.mem_append_left _ (List.mem_reverse.2 here))
      · exact fun n there => ⟨(fresh' n there).1, fun held =>
          (fresh' n there).2 (List.mem_append_right _ held)⟩
    · rintro ⟨⟨first, later⟩, ⟨⟨once, once', apart⟩, fresh, fresh'⟩, rfl⟩
      refine ⟨_, ⟨first, ⟨once, fresh⟩, rfl⟩, by simpa only [List.append_assoc] using later,
        ⟨once', fun n there => ?_⟩, rfl⟩
      refine ⟨(fresh' n there).1, fun held => ?_⟩
      rcases List.mem_append.1 held with here | held
      · exact apart n (List.mem_reverse.1 here) n there rfl
      · exact (fresh' n there).2 held

end Node

/-! ### Graphs -/

namespace Graph

/-- The names that the checks carry to a node, with those around the graph, are the visible ones. -/
theorem mem_carried_iff {outer : List String} {g : Graph} {before : List Node} {n : String} :
    n ∈ (Node.definedNames before).reverse ++ g.givenNames ++ outer ↔
      n ∈ g.visibleAfter {n | n ∈ outer} before := by
  change _ ↔ n ∈ outer ∨ n ∈ g.givenNames ∨ n ∈ Node.definedNames before
  simp only [List.mem_append, List.mem_reverse]
  tauto

theorem setOf_mem_carried {outer : List String} {g : Graph} {before : List Node} :
    {n | n ∈ (Node.definedNames before).reverse ++ g.givenNames ++ outer} =
      g.visibleAfter {n | n ∈ outer} before := by
  ext n
  exact mem_carried_iff

theorem check_eq_ok_iff_parts {outer : List String} {g : Graph} :
    g.check outer = .ok () ↔
      (g.outputs.map (·.name)).Nodup ∧ (g.inputs.map (·.name)).Nodup ∧
        (g.initializers.map (·.name)).Nodup ∧
        ∃ own, Node.checkAll g.name outer g.givenNames g.nodes = .ok own ∧
          ∀ n ∈ g.outputs.map (·.name), n ∈ own ++ outer := by
  obtain ⟨name, nodes, inputs, outputs, initializers⟩ := g
  rw [check, bind_unit_eq_ok_iff, bind_unit_eq_ok_iff, bind_unit_eq_ok_iff, bind_eq_ok_iff]
  simp only [Scope.distinct_eq_ok_iff, Scope.resolve_eq_ok_iff, givenNames]

/-- The checks of a graph inside some names pass exactly if it is well scoped there. -/
theorem check_eq_ok_iff {outer : List String} {g : Graph} :
    g.check outer = .ok () ↔ g.WellScoped {n | n ∈ outer} := by
  induction g using Graph.inductionOnBodies generalizing outer with
  | step g ih =>
    have usable (before : List Node) (n : String) :
        n ∈ (Node.definedNames before).reverse ++ g.givenNames ++ outer ↔
          n ∈ g.visibleAfter {n | n ∈ outer} before :=
      mem_carried_iff
    have inside {before : List Node} {node : Node} {after : List Node}
        (split : g.nodes = before ++ node :: after) {body : Graph} (held : body ∈ node.bodies) :
        body.check ((Node.definedNames before).reverse ++ g.givenNames ++ outer) = .ok () ↔
          body.WellScoped (g.visibleAfter {n | n ∈ outer} before) := by
      have among : node ∈ g.nodes := by simp [split]
      rw [← setOf_mem_carried]
      exact ih body (List.mem_flatMap.2 ⟨node, among, held⟩)
    rw [check_eq_ok_iff_parts]
    simp only [Node.checkAll_eq_ok_iff, List.forall_mem_map]
    constructor
    · rintro ⟨outputs, inputs, initializers, _, ⟨nodes, ⟨once, fresh⟩, rfl⟩, given⟩
      refine .intro outputs inputs initializers ?_ ?_ once fresh ?_
      · exact fun before node after split n held named =>
          (usable before n).1 ((nodes before node after split).1 n held named)
      · exact fun before node after split body held =>
          (inside split held).1 ((nodes before node after split).2 body held)
      · exact fun v declared => (usable g.nodes v.name).1 (given v declared)
    · rintro ⟨outputs, inputs, initializers, used, bodies, once, fresh, given⟩
      refine ⟨outputs, inputs, initializers, _, ⟨?_, ⟨once, fresh⟩, rfl⟩, ?_⟩
      · exact fun before node after split =>
          ⟨fun n held named => (usable before n).2 (used before node after split n held named),
            fun body held => (inside split held).2 (bodies before node after split body held)⟩
      · exact fun v declared => (usable g.nodes v.name).2 (given v declared)

theorem setOf_mem_nil : {n | n ∈ ([] : List String)} = (∅ : Set String) := by
  ext n
  exact iff_of_false List.not_mem_nil (Set.notMem_empty n)

/-- Validation accepts exactly the graphs that are well scoped on their own. -/
theorem validate_eq_ok_iff {g : Graph} : g.validate = .ok () ↔ g.WellScoped ∅ := by
  rw [validate, check_eq_ok_iff, setOf_mem_nil]

/-- What one branch defines, the other cannot use. -/
example :
    let branch (input output : String) : Graph :=
      { Graph.empty "body" with nodes := [.new "Neg" [input] [output]] }
    let g : Graph := { Graph.empty "g" with
      nodes := [(Node.new "If" ["c"] [])
        |>.attr "then_branch" (.graph (branch "z" "y"))
        |>.attr "else_branch" (.graph (branch "c" "z"))]
      inputs := [.scalar "c" .bool] }
    g.validate = .error (.undefinedReference "body" "Neg" "z") := by
  decide

end Graph

end OnnxCorpus
