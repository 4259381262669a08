import OnnxCorpus.Graph

/-!
# Fixtures of operators on shapes, windows and axes
-/

namespace OnnxCorpus.Corpus

/-- Averages over windows in three dimensions. -/
def averagePool : Built := .ok {
  nodes := [(Node.new "AveragePool" ["0"] ["1"]).attr "kernel_shape" (.ints [3, 3, 3])]
  inputs := [⟨"0", .f32, [1, 3, 5, 5, 5]⟩]
  outputs := [⟨"1", .f32, [1, 3, 3, 3, 3]⟩] }

/-- Averages over windows, padded so that the shape is kept. -/
def averagePoolSame : Built := .ok {
  nodes := [(Node.new "AveragePool" ["x"] ["y"])
    |>.attr "kernel_shape" (.ints [2, 2]) |>.attr "auto_pad" (.string "SAME_UPPER")]
  inputs := [⟨"x", .f32, [1, 1, 5, 5]⟩]
  outputs := [⟨"y", .f32, [1, 1, 5, 5]⟩] }

/-- A convolution, what is positive of it, and the largest values over windows. -/
def convReluMaxPool : Built := .ok {
  nodes := [
    (Node.new "Conv" ["0", "1", "2"] ["3"])
      |>.attr "dilations" (.ints [1, 1]) |>.attr "strides" (.ints [1, 1])
      |>.attr "pads" (.ints [0, 0, 0, 0]),
    .new "Relu" ["3"] ["4"],
    (Node.new "MaxPool" ["4"] ["5"])
      |>.attr "pads" (.ints [0, 0, 0, 0]) |>.attr "strides" (.ints [2, 2])
      |>.attr "kernel_shape" (.ints [2, 2])]
  inputs := [⟨"0", .f32, [1, 3, 32, 32]⟩, ⟨"1", .f32, [1, 3, 5, 5]⟩, ⟨"2", .f32, [1]⟩]
  outputs := [⟨"5", .f32, [1, 1, 14, 14]⟩] }

/-- Slices picked by their indices along an axis. -/
def gather : Built := .ok {
  nodes := [(Node.new "Gather" ["data", "indices"] ["y"]).attr "axis" (.int 1)]
  inputs := [⟨"data", .f32, [3, 4, 5, 6]⟩, ⟨"indices", .i32, [2, 3, 4, 5]⟩]
  outputs := [⟨"y", .f32, [2, 3, 4, 5]⟩] }

/-- The logarithms of a softmax along the last axis of a slice. -/
def logSoftmax : Built := .ok {
  nodes := [
    (Node.new "Slice" ["0"] ["1"])
      |>.attr "axes" (.ints [0, 1]) |>.attr "starts" (.ints [1, 0]) |>.attr "ends" (.ints [4, 4]),
    (Node.new "LogSoftmax" ["1"] ["2"]).attr "axis" (.int (-1))]
  inputs := [⟨"0", .f32, [6, 9]⟩]
  outputs := [⟨"2", .f32, [3, 4]⟩] }

/-- A tensor cut into three along an axis. -/
def split : Built := .ok {
  nodes := [(Node.new "Split" ["x"] ["y1", "y2", "y3"])
    |>.attr "axis" (.int 1) |>.attr "split" (.ints [7, 4, 4])]
  inputs := [⟨"x", .f32, [10, 15]⟩]
  outputs := [⟨"y1", .f32, [10, 7]⟩, ⟨"y2", .f32, [10, 4]⟩, ⟨"y3", .f32, [10, 4]⟩] }

/-- An identity for batches of unknown size. -/
def variableBatch : Built := .ok {
  nodes := [.new "Identity" ["0"] ["1"]]
  inputs := [⟨"0", .f32, [.unknown, 3, 16, 16]⟩]
  outputs := [⟨"1", .f32, [.unknown, 3, 16, 16]⟩] }

/-- A sum of an empty batch and one of unknown size. -/
def emptyBatch : Built := .ok {
  nodes := [.new "Add" ["0", "1"] ["2"]]
  inputs := [⟨"0", .f32, [0, 3, 16, 16]⟩, ⟨"1", .f32, [.unknown, 3, 16, 16]⟩]
  outputs := [⟨"2", .f32, [.unknown, 3, 16, 16]⟩] }

/-- A quantized tensor scaled along one of its axes. -/
def dequantizeLinear (axis : Int64) : Built := .ok {
  nodes := [(Node.new "DequantizeLinear" ["0", "1", "2"] ["out"]).attr "axis" (.int axis)]
  inputs := [⟨"0", .i8, [1, 1, 5, 1]⟩, ⟨"1", .f32, [5]⟩, ⟨"2", .i8, [5]⟩]
  outputs := [⟨"out", .f32, [1, 1, 5, 1]⟩] }

end OnnxCorpus.Corpus
