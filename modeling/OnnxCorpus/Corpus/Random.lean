import OnnxCorpus.Graph
import OnnxCorpus.Sampling.Normal

/-!
# Fixtures with random operators and random weights
-/

namespace OnnxCorpus.Corpus

/-- Samples of a normal distribution, with a seed. -/
def randomNormal : Built := .ok {
  nodes := [(Node.new "RandomNormal" [] ["output"])
    |>.attr "dtype" (.int 11) |>.attr "mean" (.float 10.0) |>.attr "scale" (.float 1.5)
    |>.attr "seed" (.float 0.0) |>.attr "shape" (.ints [2, 3, 4])]
  inputs := []
  outputs := [⟨"output", .f64, [2, 3, 4]⟩] }

/-- Without a seed: whoever runs the graph picks one. -/
def randomUniform : Built := .ok {
  nodes := [(Node.new "RandomUniformLike" ["input"] ["output"])
    |>.attr "low" (.float 0.0) |>.attr "high" (.float 1.0)]
  inputs := [⟨"input", .f32, [1, 10]⟩]
  outputs := [⟨"output", .f32, [1, 10]⟩] }

/-- A product with a matrix of random weights, the same on every run. -/
def matMulRandomWeights : Built := do
  let w ← Tensor.floats "w" [3, 4] (Sampling.normals 0x5eed 12)
  .ok {
    nodes := [.new "MatMul" ["x", "w"] ["y"]]
    inputs := [⟨"x", .f32, [2, 3]⟩]
    outputs := [⟨"y", .f32, [2, 4]⟩]
    initializers := [w] }

end OnnxCorpus.Corpus
