import OnnxCorpus.Graph
import OnnxCorpus.Sampling.Normal

/-!
# Fixtures of nodes with bodies
-/

namespace OnnxCorpus.Corpus

/-- Branches that use values of the graph around them. -/
def ifThen : Built := do
  let xt ← Tensor.floats "xt" [2, 3] (List.replicate 6 1.0)
  let yt ← Tensor.floats "yt" [2, 3] (Sampling.normals 0x1f 6)
  let cond ← Tensor.bools "cond" [1] [true]
  let thenBody : Graph := {
    name := "then_body"
    nodes := [.new "Add" ["x", "xt"] ["then_out"]]
    inputs := []
    outputs := [⟨"then_out", .f32, [2, 3]⟩]
    initializers := [] }
  let elseBody : Graph := {
    name := "else_body"
    nodes := [.new "Mul" ["y", "yt"] ["else_out"]]
    inputs := []
    outputs := [⟨"else_out", .f32, [2, 3]⟩]
    initializers := [] }
  .ok {
    nodes := [(Node.new "If" ["cond"] ["res"])
      |>.attr "then_branch" (.graph thenBody) |>.attr "else_branch" (.graph elseBody)]
    inputs := [⟨"x", .f32, [2, 3]⟩, ⟨"y", .f32, [2, 3]⟩]
    outputs := [.scalar "res" .f32]
    initializers := [cond, xt, yt] }

/-- Branches that give constants. -/
def ifLiteral : Built := do
  let x ← Tensor.floats "x" [5] [1.0, 2.0, 3.0, 4.0, 5.0]
  let y ← Tensor.floats "y" [5] [5.0, 4.0, 3.0, 2.0, 1.0]
  let z ← Tensor.floats "z" [0] []
  let emptyConstant := (Node.new "Constant" [] ["empty_out"]).attr "value" (.tensor z)
  let body (name output : String) (value : Tensor) : Graph := {
    name := name
    nodes := [(Node.new "Constant" [] [output]).attr "value" (.tensor value), emptyConstant]
    inputs := []
    outputs := [⟨output, .f32, [5]⟩]
    initializers := [] }
  .ok {
    nodes := [(Node.new "If" ["cond"] ["ret"])
      |>.attr "then_branch" (.graph (body "then_body" "then_out" x))
      |>.attr "else_branch" (.graph (body "else_body" "else_out" y))]
    inputs := [.scalar "cond" .bool]
    outputs := [.scalar "ret" .f32] }

/-- The body of the loop fixtures, all its values of one shape. -/
def loopBody (shape : List Dim) : Graph where
  name := "body"
  nodes := [
    .new "Add" ["a", "b_in"] ["my_local"],
    .new "Sub" ["a", "b_in"] ["a_sub_b_in"],
    .new "Greater" ["my_local", "a_sub_b_in"] ["keep_going"],
    .new "Add" ["a_sub_b_in", "a_sub_b_in"] ["user_defined_vals"]]
  inputs := [⟨"iteration_num", .i64, shape⟩, ⟨"keep_going_inp", .bool, shape⟩,
    ⟨"b_in", .f32, shape⟩]
  outputs := [⟨"keep_going", .bool, shape⟩, ⟨"a_sub_b_in", .f32, shape⟩,
    ⟨"my_local", .f32, shape⟩, ⟨"user_defined_vals", .f32, shape⟩]
  initializers := []

/-- A loop without a bound and without a first condition. -/
def loopDefault : Built := .ok {
  nodes := [(Node.new "Loop" ["", "", "b"] ["b_loop", "my_local_loop", "user_defined_vals_loop"])
    |>.attr "body" (.graph (loopBody []))]
  inputs := [.scalar "a" .f32, .scalar "b" .f32]
  outputs := [.scalar "b_loop" .f32, ⟨"user_defined_vals_loop", .f32, [2, 1]⟩] }

/-- A loop with a bound and a first condition. -/
def loop : Built := .ok {
  nodes := [(Node.new "Loop" ["max_trip_count", "keep_going_cond", "b"]
      ["b_loop", "my_local_loop", "user_defined_vals_loop"])
    |>.attr "body" (.graph (loopBody [1]))]
  inputs := [⟨"max_trip_count", .i64, [1]⟩, ⟨"keep_going_cond", .bool, [1]⟩, ⟨"a", .f32, [1]⟩,
    ⟨"b", .f32, [1]⟩]
  outputs := [⟨"b_loop", .f32, [1]⟩, ⟨"user_defined_vals_loop", .f32, [2, 1]⟩] }

end OnnxCorpus.Corpus
