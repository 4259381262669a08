import OnnxCorpus.Graph

/-!
# Fixtures of elementwise operators
-/

namespace OnnxCorpus.Corpus

/-- Arc cosines. -/
def acos : Built := .ok {
  nodes := [.new "Acos" ["x"] ["y"]]
  inputs := [⟨"x", .f32, [10]⟩]
  outputs := [⟨"y", .f32, [10]⟩] }

/-- A sum in which one addend is spread along an axis. -/
def addBroadcast : Built := .ok {
  nodes := [(Node.new "Add" ["0", "1"] ["2"]).attr "broadcast" (.int 1) |>.attr "axis" (.int 1)]
  inputs := [⟨"0", .f32, [2, 3, 4, 5]⟩, ⟨"1", .f32, [3, 4]⟩]
  outputs := [⟨"2", .f32, [2, 3, 4, 5]⟩] }

/-- A sum in which one addend is a single number. -/
def addScalar : Built := .ok {
  nodes := [.new "Add" ["0", "1"] ["2"]]
  inputs := [⟨"0", .u8, [2, 3, 4, 5]⟩, .scalar "1" .u8]
  outputs := [⟨"2", .u8, [2, 3, 4, 5]⟩] }

/-- The places of the largest elements along an axis, which is dropped. -/
def argMax : Built := .ok {
  nodes := [(Node.new "ArgMax" ["x"] ["y"]).attr "axis" (.int 2) |>.attr "keepdims" (.int 0)]
  inputs := [⟨"x", .f32, [3, 4, 5, 6]⟩]
  outputs := [⟨"y", .f32, [3, 4, 6]⟩] }

/-- Batch normalization of one-dimensional data. -/
def batchNorm : Built := .ok {
  nodes := [(Node.new "BatchNormalization" ["0", "1", "2", "3", "4"] ["5"])
    |>.attr "epsilon" (.float 1e-6) |>.attr "momentum" (.float 0.9)]
  inputs := [⟨"0", .f32, [1, 3, 5]⟩, ⟨"1", .f32, [3]⟩, ⟨"2", .f32, [3]⟩, ⟨"3", .f32, [3]⟩,
    ⟨"4", .f32, [3]⟩]
  outputs := [⟨"5", .f32, [1, 3, 5]⟩] }

/-- Half-precision values in single precision. -/
def cast : Built := .ok {
  nodes := [(Node.new "Cast" ["x"] ["y"]).attr "to" (.int 1)]
  inputs := [⟨"x", .f16, [10]⟩]
  outputs := [⟨"y", .f32, [10]⟩] }

/-- Local response normalization. -/
def localResponse : Built := .ok {
  nodes := [(Node.new "LRN" ["0"] ["1"])
    |>.attr "size" (.int 5) |>.attr "alpha" (.float 0.0001) |>.attr "beta" (.float 0.75)
    |>.attr "bias" (.float 1.0)]
  inputs := [⟨"0", .f32, [1, 28, 24, 24]⟩]
  outputs := [⟨"1", .f32, [1, 28, 24, 24]⟩] }

/-- Opposite numbers. -/
def neg : Built := .ok {
  nodes := [.new "Neg" ["x"] ["y"]]
  inputs := [⟨"x", .f32, [2, 3]⟩]
  outputs := [⟨"y", .f32, [2, 3]⟩] }

/-- A choice between the elements of two tensors. -/
def select : Built := .ok {
  nodes := [.new "Where" ["c", "x", "y"] ["z"]]
  inputs := [⟨"c", .bool, [2]⟩, ⟨"x", .f32, [2, 2, 2]⟩, ⟨"y", .f32, [2, 1, 2, 2]⟩]
  outputs := [⟨"z", .f32, [2, 2, 2, 2]⟩] }

end OnnxCorpus.Corpus
