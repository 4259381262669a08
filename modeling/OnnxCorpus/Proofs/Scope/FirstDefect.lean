import OnnxCorpus.Proofs.Scope.WellScoped

/-!
# The first defect of a graph

`Graph.FirstDefect outer g error` says that a graph inside the names `outer` breaks a rule of scoping
with a value of its own, which `error` names, and that everything before that value is right: first
come the declared outputs, the inputs and the initializers, which are distinct, then the nodes in
order, each with its inputs, its bodies and its outputs, and last the declared outputs again, which
are visible. `Graph.LeadsTo` goes from a graph into its bodies in the same order, past what is right.
What validation reports is the first defect of the graph that it is led to
(`Graph.validate_eq_error_iff`).
-/

namespace OnnxCorpus

open Fallible

/-! ### Defects -/

/-- A name that stands in a list for the second time, the names before it being distinct. -/
def FirstRepeat (names : List String) (n : String) : Prop :=
  ∃ first rest, names = first ++ n :: rest ∧ first.Nodup ∧ n ∈ first

namespace Graph

/-- The rules of scoping, as far as the values of a graph itself and the first of its nodes go. -/
structure RightThrough (g : Graph) (outer : Set String) (before : List Node) : Prop where
  outputs : (g.outputs.map (·.name)).Nodup
  inputs : (g.inputs.map (·.name)).Nodup
  initializers : (g.initializers.map (·.name)).Nodup
  used : ∀ earlier node later, before = earlier ++ node :: later →
    ∀ n ∈ node.inputs, n ≠ "" → n ∈ g.visibleAfter outer earlier
  bodies : ∀ earlier node later, before = earlier ++ node :: later →
    ∀ body ∈ node.bodies, body.WellScoped (g.visibleAfter outer earlier)
  once : (Node.definedNames before).Nodup
  fresh : ∀ n ∈ Node.definedNames before, n ∉ outer ∧ n ∉ g.givenNames

/-- A graph is right up to one of its nodes, which comes after the nodes `before`. -/
structure RightUpTo (g : Graph) (outer : Set String) (before : List Node) (node : Node) : Prop where
  split : ∃ after, g.nodes = before ++ node :: after
  passed : g.RightThrough outer before

/-- A graph is right up to the bodies of one of its nodes. -/
structure RightUpToBodies (g : Graph) (outer : Set String) (before : List Node) (node : Node) :
    Prop extends g.RightUpTo outer before node where
  used : ∀ n ∈ node.inputs, n ≠ "" → n ∈ g.visibleAfter outer before

/-- What a graph itself breaks a rule with, apart from its bodies, everything before being right. -/
inductive FirstDefect (outer : Set String) (g : Graph) : ScopeError → Prop
  | declared {n : String} (again : FirstRepeat (g.outputs.map (·.name)) n) :
      FirstDefect outer g (.duplicateName g.name n)
  | input {n : String} (outputs : (g.outputs.map (·.name)).Nodup)
      (again : FirstRepeat (g.inputs.map (·.name)) n) :
      FirstDefect outer g (.duplicateName g.name n)
  | initializer {n : String} (outputs : (g.outputs.map (·.name)).Nodup)
      (inputs : (g.inputs.map (·.name)).Nodup)
      (again : FirstRepeat (g.initializers.map (·.name)) n) :
      FirstDefect outer g (.duplicateName g.name n)
  | used {before : List Node} {node : Node} {n : String} (reached : g.RightUpTo outer before node)
      (first : FirstPast (fun m => m ≠ "" → m ∈ g.visibleAfter outer before) node.inputs n)
      (present : n ≠ "") (undefined : n ∉ g.visibleAfter outer before) :
      FirstDefect outer g (.undefinedReference g.name node.opType n)
  | defined {before : List Node} {node : Node} {first rest : List String} {n : String}
      (reached : g.RightUpToBodies outer before node)
      (bodies : ∀ body ∈ node.bodies, body.WellScoped (g.visibleAfter outer before))
      (split : Scope.present node.outputs = first ++ n :: rest) (once : first.Nodup)
      (fresh : ∀ m ∈ first, m ∉ g.visibleAfter outer before)
      (taken : n ∈ g.visibleAfter outer before ∨ n ∈ first) :
      FirstDefect outer g (.duplicateName g.name n)
  | given {n : String} (passed : g.RightThrough outer g.nodes)
      (first : FirstPast (· ∈ g.visibleAfter outer g.nodes) (g.outputs.map (·.name)) n)
      (undefined : n ∉ g.visibleAfter outer g.nodes) :
      FirstDefect outer g (.undefinedReference g.name "output" n)

/-- A graph inside the names `outer` is itself come to, or one inside it, at any depth, with the
names that the node owning it can use, and everything before it is right. -/
inductive LeadsTo : Set String → Graph → Set String → Graph → Prop
  | itself {outer : Set String} {g : Graph} : LeadsTo outer g outer g
  | body {outer visible : Set String} {g body h : Graph} {before : List Node} {node : Node}
      (reached : g.RightUpToBodies outer before node)
      (first : FirstPast (·.WellScoped (g.visibleAfter outer before)) node.bodies body)
      (inside : LeadsTo (g.visibleAfter outer before) body visible h) :
      LeadsTo outer g visible h

end Graph

/-! ### Single checks -/

namespace Scope

variable {graph opType n : String} {names : List String} {error : ScopeError}

theorem repeated?_eq_some_iff {seen : List String} :
    repeated? seen names = some n ↔
      ∃ first rest, names = first ++ n :: rest ∧ (first.Nodup ∧ ∀ m ∈ first, m ∉ seen) ∧
        (n ∈ first ∨ n ∈ seen) := by
  induction names generalizing seen with
  | nil => simp [repeated?]
  | cons m names ih =>
    rw [repeated?]
    constructor
    · split
      · next seen =>
        rintro ⟨⟩
        exact ⟨[], names, rfl, by simp, .inr seen⟩
      · next new =>
        intro found
        obtain ⟨first, rest, rfl, ⟨once, unseen⟩, taken⟩ := ih.1 found
        refine ⟨m :: first, rest, rfl, ⟨List.nodup_cons.2 ⟨?_, once⟩, ?_⟩, ?_⟩ <;> grind
    · rintro ⟨_ | ⟨k, first⟩, rest, split, ⟨once, unseen⟩, taken⟩
      · obtain ⟨rfl, rfl⟩ := List.cons.inj split
        rw [if_pos (by simpa using taken)]
      · obtain ⟨rfl, rfl⟩ := List.cons.inj split
        rw [if_neg (unseen m List.mem_cons_self), ih]
        obtain ⟨new, once⟩ := List.nodup_cons.1 once
        exact ⟨first, rest, rfl, ⟨once, by grind⟩, by grind⟩

theorem distinct_eq_error_iff :
    distinct graph names = .error error ↔
      ∃ n, FirstRepeat names n ∧ .duplicateName graph n = error := by
  have found (n) : repeated? [] names = some n ↔ FirstRepeat names n := by
    simp [repeated?_eq_some_iff, FirstRepeat]
  simp only [← found, distinct]
  cases repeated? [] names <;> simp

theorem resolve_eq_error_iff {visible : List String} :
    resolve graph opType visible names = .error error ↔
      ∃ n, (FirstPast (· ∈ visible) names n ∧ n ∉ visible) ∧
        .undefinedReference graph opType n = error := by
  simp only [← find?_eq_some_iff_firstPast, resolve]
  cases names.find? (· ∉ visible) <;> simp

/-- Names that are left out are visible everywhere. -/
theorem resolve_present_eq_error_iff {visible : List String} :
    resolve graph opType visible (present names) = .error error ↔
      ∃ n, FirstPast (fun m => m ≠ "" → m ∈ visible) names n ∧ n ≠ "" ∧ n ∉ visible ∧
        .undefinedReference graph opType n = error := by
  have first (n) : FirstPast (· ∈ visible) (present names) n ∧ n ∉ visible ↔
      FirstPast (fun m => m ≠ "" → m ∈ visible) names n ∧ ¬(n ≠ "" → n ∈ visible) := by
    rw [← find?_eq_some_iff_firstPast, ← find?_eq_some_iff_firstPast, present, List.find?_filter]
    simp [Classical.not_imp]
  rw [resolve_eq_error_iff]
  simp only [first, Classical.not_imp, and_assoc]

theorem define_eq_error_iff {outer own : List String} :
    define graph outer own names = .error error ↔
      ∃ first n rest, names = first ++ n :: rest ∧
        (first.Nodup ∧ ∀ m ∈ first, m ∉ outer ∧ m ∉ own) ∧
        (n ∈ outer ∨ n ∈ own ∨ n ∈ first) ∧ .duplicateName graph n = error := by
  induction names generalizing own with
  | nil => simp [define]
  | cons m names ih =>
    rw [define]
    constructor
    · split
      · next taken =>
        rintro ⟨⟩
        exact ⟨[], m, names, rfl, by simp, by tauto, rfl⟩
      · next new =>
        intro refused
        obtain ⟨first, n, rest, rfl, ⟨once, fresh⟩, taken, named⟩ := ih.1 refused
        exact ⟨m :: first, n, rest, rfl, ⟨List.nodup_cons.2 ⟨by grind, once⟩, by grind⟩, by grind,
          named⟩
    · rintro ⟨_ | ⟨k, first⟩, n, rest, split, ⟨once, fresh⟩, taken, named⟩
      · obtain ⟨rfl, rfl⟩ := List.cons.inj split
        rw [if_pos (by simpa using taken), named]
      · obtain ⟨rfl, rfl⟩ := List.cons.inj split
        obtain ⟨new, once⟩ := List.nodup_cons.1 once
        rw [if_neg (by grind), ih]
        exact ⟨first, n, rest, rfl, ⟨once, by grind⟩, by grind, named⟩

end Scope

/-! ### Nodes in order -/

theorem Attribute.checkAll_eq_error_iff {outer : List String} {table : List (String × Attribute)}
    {error : ScopeError} :
    checkAll outer table = .error error ↔
      ∃ body, FirstPast (fun body => body.check outer = .ok ())
        (table.filterMap fun entry => entry.2.body?) body ∧ body.check outer = .error error := by
  induction table with
  | nil => simp [checkAll, FirstPast]
  | cons entry rest ih =>
    obtain ⟨name, value⟩ := entry
    rw [checkAll, bind_eq_error_iff, ih]
    cases value with
    | graph body =>
      simp only [Attribute.check, body?, List.filterMap_cons, firstPast_cons_iff]
      grind
    | float _ | int _ | string _ | floats _ | ints _ | strings _ | tensor _ =>
      simp [Attribute.check, body?]

namespace Node

variable {graph : String} {outer own : List String} {error : ScopeError}

/-- A node is refused for an input, for a body, its inputs being visible, or for an output, its
bodies being right too. -/
theorem check_eq_error_iff {node : Node} :
    node.check graph outer own = .error error ↔
      (∃ n, FirstPast (fun m => m ≠ "" → m ∈ own ++ outer) node.inputs n ∧ n ≠ "" ∧
        n ∉ own ++ outer ∧ .undefinedReference graph node.opType n = error) ∨
      (∀ n ∈ node.inputs, n ≠ "" → n ∈ own ++ outer) ∧
        ((∃ body, FirstPast (fun body => body.check (own ++ outer) = .ok ()) node.bodies body ∧
          body.check (own ++ outer) = .error error) ∨
        (∀ body ∈ node.bodies, body.check (own ++ outer) = .ok ()) ∧
          ∃ first n rest, Scope.present node.outputs = first ++ n :: rest ∧
            (first.Nodup ∧ ∀ m ∈ first, m ∉ outer ∧ m ∉ own) ∧
            (n ∈ outer ∨ n ∈ own ∨ n ∈ first) ∧ .duplicateName graph n = error) := by
  obtain ⟨name, opType, inputs, outputs, attributes⟩ := node
  have used : Scope.resolve graph opType (own ++ outer) (Scope.present inputs) = .ok () ↔
      ∀ n ∈ inputs, n ≠ "" → n ∈ own ++ outer := by
    simp only [Scope.resolve_eq_ok_iff, Scope.present, List.mem_filter]
    grind
  simp only [check, bind_unit_eq_error_iff, Scope.resolve_present_eq_error_iff, used,
    Attribute.checkAll_eq_error_iff, Attribute.checkAll_eq_ok_iff, Scope.define_eq_error_iff,
    bodies]

/-- Nodes are refused for the first of them that is refused after the names before it. -/
theorem checkAll_eq_error_iff {nodes : List Node} :
    checkAll graph outer own nodes = .error error ↔
      ∃ before node after own', nodes = before ++ node :: after ∧
        checkAll graph outer own before = .ok own' ∧ node.check graph outer own' = .error error := by
  induction nodes generalizing own with
  | nil => simp [checkAll]
  | cons node rest ih =>
    rw [checkAll, bind_eq_error_iff]
    constructor
    · rintro (refused | ⟨next, passed, refused⟩)
      · exact ⟨[], node, rest, own, rfl, rfl, refused⟩
      · obtain ⟨before, found, after, own', rfl, earlier, refused⟩ := ih.1 refused
        refine ⟨node :: before, found, after, own', rfl, ?_, refused⟩
        rw [checkAll, passed, ok_bind, earlier]
    · rintro ⟨_ | ⟨m, before⟩, found, after, own', split, earlier, refused⟩
      · obtain ⟨rfl, rfl⟩ := List.cons.inj split
        obtain rfl := Except.ok.inj earlier
        exact .inl refused
      · obtain ⟨rfl, rfl⟩ := List.cons.inj split
        rw [checkAll, bind_eq_ok_iff] at earlier
        obtain ⟨next, passed, earlier⟩ := earlier
        exact .inr ⟨next, passed, ih.2 ⟨before, found, after, own', rfl, earlier, refused⟩⟩

end Node

/-! ### Graphs -/

namespace Graph

variable {error : ScopeError}

theorem check_eq_error_iff_parts {outer : List String} {g : Graph} :
    g.check outer = .error error ↔
      (∃ n, FirstRepeat (g.outputs.map (·.name)) n ∧ .duplicateName g.name n = error) ∨
      (g.outputs.map (·.name)).Nodup ∧
        ((∃ n, FirstRepeat (g.inputs.map (·.name)) n ∧ .duplicateName g.name n = error) ∨
        (g.inputs.map (·.name)).Nodup ∧
          ((∃ n, FirstRepeat (g.initializers.map (·.name)) n ∧ .duplicateName g.name n = error) ∨
          (g.initializers.map (·.name)).Nodup ∧
            (Node.checkAll g.name outer g.givenNames g.nodes = .error error ∨
            ∃ own, Node.checkAll g.name outer g.givenNames g.nodes = .ok own ∧
              ∃ n, (FirstPast (· ∈ own ++ outer) (g.outputs.map (·.name)) n ∧ n ∉ own ++ outer) ∧
                .undefinedReference g.name "output" n = error))) := by
  obtain ⟨name, nodes, inputs, outputs, initializers⟩ := g
  rw [check, bind_unit_eq_error_iff, bind_unit_eq_error_iff, bind_unit_eq_error_iff,
    bind_eq_error_iff]
  simp only [Scope.distinct_eq_error_iff, Scope.distinct_eq_ok_iff, Scope.resolve_eq_error_iff,
    givenNames]

/-- The checks pass the first nodes of a graph exactly if the rules hold as far as they go, and
then carry their names on. -/
theorem checkAll_eq_ok_iff_rightThrough {outer own : List String} {g : Graph} {before : List Node}
    (outputs : (g.outputs.map (·.name)).Nodup) (inputs : (g.inputs.map (·.name)).Nodup)
    (initializers : (g.initializers.map (·.name)).Nodup) :
    Node.checkAll g.name outer g.givenNames before = .ok own ↔
      g.RightThrough {n | n ∈ outer} before ∧
        own = (Node.definedNames before).reverse ++ g.givenNames := by
  rw [Node.checkAll_eq_ok_iff]
  simp only [check_eq_ok_iff, mem_carried_iff, Set.ofPred_mem_eq]
  constructor
  · rintro ⟨nodes, ⟨once, fresh⟩, rfl⟩
    exact ⟨⟨outputs, inputs, initializers, fun earlier node later split =>
      (nodes earlier node later split).1, fun earlier node later split =>
      (nodes earlier node later split).2, once, fresh⟩, rfl⟩
  · rintro ⟨right, rfl⟩
    exact ⟨fun earlier node later split => ⟨right.used earlier node later split,
      right.bodies earlier node later split⟩, ⟨right.once, right.fresh⟩, rfl⟩

/-- The checks of a node in the terms of the names that are visible before it. -/
theorem check_node_eq_error_iff {outer : List String} {g : Graph} {before : List Node}
    {node : Node} {visible : Set String}
    (here : visible = g.visibleAfter {n | n ∈ outer} before) :
    node.check g.name outer ((Node.definedNames before).reverse ++ g.givenNames) = .error error ↔
      (∃ n, FirstPast (fun m => m ≠ "" → m ∈ visible) node.inputs n ∧ n ≠ "" ∧ n ∉ visible ∧
        .undefinedReference g.name node.opType n = error) ∨
      (∀ n ∈ node.inputs, n ≠ "" → n ∈ visible) ∧
        ((∃ body, FirstPast (·.WellScoped visible) node.bodies body ∧
          body.check ((Node.definedNames before).reverse ++ g.givenNames ++ outer) =
            .error error) ∨
        (∀ body ∈ node.bodies, body.WellScoped visible) ∧
          ∃ first n rest, Scope.present node.outputs = first ++ n :: rest ∧
            (first.Nodup ∧ ∀ m ∈ first, m ∉ visible) ∧ (n ∈ visible ∨ n ∈ first) ∧
            .duplicateName g.name n = error) := by
  have visible_iff (n : String) : n ∈ visible ↔
      n ∈ outer ∨ n ∈ (Node.definedNames before).reverse ++ g.givenNames := by
    rw [here, ← mem_carried_iff, List.mem_append, or_comm]
  have carried (n : String) :
      n ∈ (Node.definedNames before).reverse ++ g.givenNames ++ outer ↔ n ∈ visible := by
    rw [here, mem_carried_iff]
  have inside (body : Graph) :
      body.check ((Node.definedNames before).reverse ++ g.givenNames ++ outer) = .ok () ↔
        body.WellScoped visible := by
    rw [check_eq_ok_iff, setOf_mem_carried, here]
  simp only [Node.check_eq_error_iff, carried, inside, visible_iff, not_or, or_assoc]

/-- A graph is refused if one of its nodes is, everything before the node being right. -/
theorem check_eq_error_of_node {outer : List String} {g : Graph} {before : List Node} {node : Node}
    (reached : g.RightUpTo {n | n ∈ outer} before node)
    (refused : node.check g.name outer ((Node.definedNames before).reverse ++ g.givenNames) =
      .error error) : g.check outer = .error error := by
  obtain ⟨⟨after, split⟩, passed⟩ := reached
  have earlier := (checkAll_eq_ok_iff_rightThrough passed.outputs passed.inputs
    passed.initializers).2 ⟨passed, rfl⟩
  have nodes : Node.checkAll g.name outer g.givenNames g.nodes = .error error :=
    Node.checkAll_eq_error_iff.2 ⟨before, node, after, _, split, earlier, refused⟩
  exact check_eq_error_iff_parts.2 (.inr ⟨passed.outputs, .inr ⟨passed.inputs,
    .inr ⟨passed.initializers, .inl nodes⟩⟩⟩)

/-- A graph is refused for its own first defect. -/
theorem check_eq_error_of_firstDefect {outer : List String} {g : Graph}
    (defect : g.FirstDefect {n | n ∈ outer} error) : g.check outer = .error error := by
  cases defect with
  | declared again => exact check_eq_error_iff_parts.2 (.inl ⟨_, again, rfl⟩)
  | input outputs again =>
    exact check_eq_error_iff_parts.2 (.inr ⟨outputs, .inl ⟨_, again, rfl⟩⟩)
  | initializer outputs inputs again =>
    exact check_eq_error_iff_parts.2 (.inr ⟨outputs, .inr ⟨inputs, .inl ⟨_, again, rfl⟩⟩⟩)
  | used reached first present undefined =>
    refine check_eq_error_of_node reached ?_
    exact (check_node_eq_error_iff rfl).2 (.inl ⟨_, first, present, undefined, rfl⟩)
  | defined reached bodies split once fresh taken =>
    refine check_eq_error_of_node reached.toRightUpTo ?_
    exact (check_node_eq_error_iff rfl).2
      (.inr ⟨reached.used, .inr ⟨bodies, _, _, _, split, ⟨once, fresh⟩, taken, rfl⟩⟩)
  | given passed first undefined =>
    have nodes := (checkAll_eq_ok_iff_rightThrough passed.outputs passed.inputs
      passed.initializers).2 ⟨passed, rfl⟩
    refine check_eq_error_iff_parts.2 (.inr ⟨passed.outputs, .inr ⟨passed.inputs,
      .inr ⟨passed.initializers, .inr ⟨_, nodes, _, ?_, rfl⟩⟩⟩⟩)
    simp only [mem_carried_iff]
    exact ⟨first, undefined⟩

/-- What is reported of a graph whose surroundings define some names: its own first defect, or
what is reported of the first of its bodies that is not well scoped. -/
theorem check_eq_error_iff_step {outer : List String} {g : Graph} :
    g.check outer = .error error ↔
      g.FirstDefect {n | n ∈ outer} error ∨
      ∃ before node body, g.RightUpToBodies {n | n ∈ outer} before node ∧
        FirstPast (·.WellScoped (g.visibleAfter {n | n ∈ outer} before)) node.bodies body ∧
        body.check ((Node.definedNames before).reverse ++ g.givenNames ++ outer) =
          .error error := by
  constructor
  · intro refused
    rcases check_eq_error_iff_parts.1 refused with ⟨n, again, rfl⟩ | ⟨outputs, ⟨n, again, rfl⟩ |
      ⟨inputs, ⟨n, again, rfl⟩ | ⟨initializers, refused | ⟨own, passed, n, undefined, rfl⟩⟩⟩⟩
    · exact .inl (.declared again)
    · exact .inl (.input outputs again)
    · exact .inl (.initializer outputs inputs again)
    · obtain ⟨before, node, after, own, split, earlier, refused⟩ :=
        Node.checkAll_eq_error_iff.1 refused
      obtain ⟨right, rfl⟩ :=
        (checkAll_eq_ok_iff_rightThrough outputs inputs initializers).1 earlier
      have reached : g.RightUpTo {n | n ∈ outer} before node := ⟨⟨after, split⟩, right⟩
      rcases (check_node_eq_error_iff rfl).1 refused with ⟨n, first, present, undefined, rfl⟩ |
        ⟨used, ⟨body, first, refused⟩ | ⟨bodies, first, n, rest, split, ⟨once, fresh⟩, taken, rfl⟩⟩
      · exact .inl (.used reached first present undefined)
      · exact .inr ⟨before, node, body, ⟨reached, used⟩, first, refused⟩
      · exact .inl (.defined ⟨reached, used⟩ bodies split once fresh taken)
    · obtain ⟨right, rfl⟩ :=
        (checkAll_eq_ok_iff_rightThrough outputs inputs initializers).1 passed
      simp only [mem_carried_iff] at undefined
      exact .inl (.given right undefined.1 undefined.2)
  · rintro (defect | ⟨before, node, body, ⟨reached, used⟩, first, refused⟩)
    · exact check_eq_error_of_firstDefect defect
    · refine check_eq_error_of_node reached ?_
      exact (check_node_eq_error_iff rfl).2 (.inr ⟨used, .inl ⟨body, first, refused⟩⟩)

/-- A graph inside some names is refused for the first defect that it leads to. -/
theorem check_eq_error_iff {outer : List String} {g : Graph} :
    g.check outer = .error error ↔
      ∃ visible h, g.LeadsTo {n | n ∈ outer} visible h ∧ h.FirstDefect visible error := by
  induction g using Graph.inductionOnBodies generalizing outer with
  | step g ih =>
    have inside {before : List Node} {node : Node} {body : Graph}
        (reached : g.RightUpToBodies {n | n ∈ outer} before node)
        (first : FirstPast (·.WellScoped (g.visibleAfter {n | n ∈ outer} before)) node.bodies body) :
        body.check ((Node.definedNames before).reverse ++ g.givenNames ++ outer) = .error error ↔
          ∃ visible h, body.LeadsTo (g.visibleAfter {n | n ∈ outer} before) visible h ∧
            h.FirstDefect visible error := by
      obtain ⟨⟨⟨after, split⟩, -⟩, -⟩ := reached
      obtain ⟨earlier, later, among, -⟩ := first
      rw [← setOf_mem_carried]
      exact ih body (List.mem_flatMap.2 ⟨node, by simp [split], by simp [among]⟩)
    rw [check_eq_error_iff_step]
    constructor
    · rintro (defect | ⟨before, node, body, reached, first, refused⟩)
      · exact ⟨_, g, .itself, defect⟩
      · obtain ⟨visible, h, leads, defect⟩ := (inside reached first).1 refused
        exact ⟨visible, h, .body reached first leads, defect⟩
    · rintro ⟨visible, h, _ | ⟨reached, first, leads⟩, defect⟩
      · exact .inl defect
      · exact .inr ⟨_, _, _, reached, first, (inside reached first).2 ⟨visible, h, leads, defect⟩⟩

/-- What validation reports is the first defect of the graph, at whatever depth, that everything
right before it leads to. -/
theorem validate_eq_error_iff {g : Graph} :
    g.validate = .error error ↔
      ∃ visible h, g.LeadsTo ∅ visible h ∧ h.FirstDefect visible error := by
  rw [validate, check_eq_error_iff, setOf_mem_nil]

end Graph

end OnnxCorpus
