import OnnxCorpus.Proofs.Scope.WellScoped

/-!
# Names that shadow others

A value that a body defines shadows another one if the node owning the body could already use its
name. In a graph that validation accepts, no output of a node does so, at any depth. The inputs and
initializers of a body are not compared with the names around it, so that they may, and nothing else
may (`Graph.noShadowing_iff_given`).
-/

namespace OnnxCorpus

namespace Graph

/-- A name is that of an input, an initializer or an output of a node of a graph itself. -/
def Defines (g : Graph) (n : String) : Prop :=
  n ∈ g.givenNames ∨ n ∈ Node.definedNames g.nodes

/-- Nothing that a graph itself defines has one of the names that are visible around it. -/
def NoShadowing (visible : Set String) (g : Graph) : Prop :=
  ∀ n, g.Defines n → n ∉ visible

/-- A graph inside some names is the other one or has it inside it, at any depth; the names around
the other one are those that the node owning it can use. -/
inductive Encloses : Set String → Graph → Set String → Graph → Prop
  | itself {outer : Set String} {g : Graph} : Encloses outer g outer g
  | body {outer visible : Set String} {g body h : Graph} {before after : List Node} {node : Node}
      (split : g.nodes = before ++ node :: after) (held : body ∈ node.bodies)
      (inside : Encloses (g.visibleAfter outer before) body visible h) :
      Encloses outer g visible h

variable {g owner body : Graph} {outer visible : Set String} {before after : List Node}
  {node : Node}

theorem Encloses.trans {h : Graph} {inner : Set String} (inside : g.Encloses outer visible body)
    (deeper : body.Encloses visible inner h) : g.Encloses outer inner h := by
  induction inside with
  | itself => exact deeper
  | body split held _ ih => exact .body split held (ih deeper)

/-- Whatever a well scoped graph encloses is well scoped where it stands. -/
theorem WellScoped.of_encloses (right : g.WellScoped outer)
    (inside : g.Encloses outer visible body) : body.WellScoped visible := by
  induction inside with
  | itself => exact right
  | body split held _ ih =>
    obtain ⟨_, _, _, _, bodies⟩ := right
    exact ih (bodies _ _ _ split _ held)

theorem WellScoped.not_visible_of_defined (right : g.WellScoped visible) {n : String}
    (defined : n ∈ Node.definedNames g.nodes) : n ∉ visible := by
  obtain ⟨_, _, _, _, _, _, fresh⟩ := right
  exact (fresh n defined).1

/-- Of what a body of an accepted graph defines, at any depth, an output of a node never has a name
that the node owning the body can use. So the body shadows nothing exactly if its inputs and
initializers have none of these names. -/
theorem noShadowing_iff_given (valid : g.validate = .ok ()) (inside : g.Encloses ∅ outer owner)
    (split : owner.nodes = before ++ node :: after) (held : body ∈ node.bodies) :
    (∀ n ∈ Node.definedNames body.nodes, n ∉ owner.visibleAfter outer before) ∧
      (body.NoShadowing (owner.visibleAfter outer before) ↔
        ∀ n ∈ body.givenNames, n ∉ owner.visibleAfter outer before) := by
  have within : g.Encloses ∅ (owner.visibleAfter outer before) body :=
    inside.trans (.body split held .itself)
  have right : body.WellScoped (owner.visibleAfter outer before) :=
    (validate_eq_ok_iff.1 valid).of_encloses within
  refine ⟨fun n defined => right.not_visible_of_defined defined, fun apart n given =>
    apart n (.inl given), ?_⟩
  rintro apart n (given | defined)
  · exact apart n given
  · exact right.not_visible_of_defined defined

/-- A branch that uses a value of the graphs around it. -/
def negating : Graph :=
  ⟨"branch", [.new "Neg" ["x"] ["z"]], [], [.scalar "z" .f32], []⟩

/-- A body that takes an input under the name of a value around it. -/
def rebinding : Graph :=
  ⟨"body", [(Node.new "If" ["x"] ["r"]).attr "then_branch" (.graph negating)],
    [.scalar "x" .f32], [.scalar "r" .f32], []⟩

/-- A graph whose only node has that body. -/
def looping : Graph :=
  ⟨"g", [(Node.new "Loop" ["", "", "x"] ["y"]).attr "body" (.graph rebinding)],
    [.scalar "x" .f32], [.scalar "y" .f32], []⟩

theorem noShadowing_negating :
    looping.validate = .ok () ∧
      negating.NoShadowing (rebinding.visibleAfter (looping.visibleAfter ∅ []) []) := by
  have valid : looping.validate = .ok () := by decide
  have loop : looping.nodes = [] ++ _ :: [] := rfl
  have choice : rebinding.nodes = [] ++ _ :: [] := rfl
  have inside : looping.Encloses ∅ (looping.visibleAfter ∅ []) rebinding :=
    .body loop (List.mem_singleton.2 rfl) .itself
  have apart := noShadowing_iff_given valid inside choice (List.mem_singleton.2 rfl)
  exact ⟨valid, apart.2.2 (List.forall_mem_nil _)⟩

/-- An accepted graph with a body whose input is named as a value that its owner can use. -/
theorem exists_shadowing :
    ∃ (g owner body : Graph) (outer : Set String) (before after : List Node) (node : Node),
      g.validate = .ok () ∧ g.Encloses ∅ outer owner ∧ owner.nodes = before ++ node :: after ∧
        body ∈ node.bodies ∧ ¬body.NoShadowing (owner.visibleAfter outer before) := by
  refine ⟨looping, looping, rebinding, ∅, [], [], _, by decide, .itself, rfl,
    List.mem_singleton.2 rfl, fun apart => ?_⟩
  exact apart "x" (.inl List.mem_cons_self) (.inr (.inl List.mem_cons_self))

end Graph

end OnnxCorpus
