import OnnxCorpus.Graph
import OnnxCorpus.LittleEndian

/-!
# Fixtures with constants, as initializers and as attributes
-/

namespace OnnxCorpus.Corpus

/-- The sum of 1.5 and 2.5 in half precision. -/
def addHalf : Built := do
  let a ← Tensor.halves "0" [1] [15872]
  let b ← Tensor.halves "1" [1] [16640]
  .ok {
    nodes := [.new "Add" ["0", "1"] ["2"]]
    inputs := [⟨"0", .f16, [1]⟩, ⟨"1", .f16, [1]⟩]
    outputs := [⟨"2", .f16, [1]⟩]
    initializers := [a, b] }

/-- Values kept between 0 and 6, the bounds being initializers. -/
def clip : Built := do
  let low ← Tensor.floats "min" [] [0.0]
  let high ← Tensor.floats "max" [] [6.0]
  .ok {
    nodes := [.new "Clip" ["0", "min", "max"] ["1"]]
    inputs := [⟨"0", .f32, [3]⟩]
    outputs := [⟨"1", .f32, [3]⟩]
    initializers := [low, high] }

/-- A tensor full of tens, whose shape is a constant of the graph. -/
def constantOfShape : Built := do
  let value ← Tensor.int64s "value" [1] [10]
  let shape ← Tensor.int32s "shape_tensor" .i32 [3] [2, 3, 4]
  .ok {
    nodes := [
      (Node.new "Constant" [] ["shape"]).attr "value" (.tensor shape),
      (Node.new "ConstantOfShape" ["shape"] ["y"]).attr "value" (.tensor value)]
    inputs := []
    outputs := [⟨"y", .f32, [2, 3, 4]⟩] }

/-- Three constants and nothing else. -/
def constant : Built := do
  let value ← Tensor.floats "const_tensor" [3] [0.0, 1.0, 2.0]
  .ok {
    nodes := [(Node.new "Constant" [] ["0"]).attr "value" (.tensor value)]
    inputs := []
    outputs := [⟨"0", .f32, [3]⟩] }

/-- A product with an initializer. -/
def initialized : Built := do
  let k ← Tensor.floats "k" [1] [4.0]
  .ok {
    nodes := [.new "Mul" ["x", "k"] ["y"]]
    inputs := [⟨"x", .f32, [1]⟩]
    outputs := [⟨"y", .f32, [1]⟩]
    initializers := [k] }

/-- A border of ones, its width being a constant of the graph. -/
def pad : Built := do
  let value ← Tensor.floats "val" [] [1.0]
  let sizes ← Tensor.int32s "pad_size" .i32 [4] [1, 1, 2, 2]
  .ok {
    nodes := [
      (Node.new "Constant" [] ["arg_val"]).attr "value" (.tensor value),
      (Node.new "Constant" [] ["arg_pad"]).attr "value" (.tensor sizes),
      .new "Pad" ["0", "arg_pad", "arg_val"] ["1"]]
    inputs := [⟨"0", .f32, [2, 2]⟩]
    outputs := [⟨"1", .f32, [5, 5]⟩] }

/-- A tensor under another shape, given as an input and as an attribute. -/
def reshape : Built := do
  let shape ← Tensor.int64s "1" [2] [3, 8]
  .ok {
    nodes := [
      .new "Reshape" ["0", "1"] ["2"],
      (Node.new "Reshape" ["0"] ["3"]).attr "shape" (.ints [3, 8])]
    inputs := [⟨"0", .f32, [4, 2, 3]⟩, ⟨"1", .i64, [2]⟩]
    outputs := [⟨"2", .f32, [3, 8]⟩, ⟨"3", .f32, [3, 8]⟩]
    initializers := [shape] }

/-- A smaller image, of the nearest pixels. -/
def resize : Built := do
  let scales ← Tensor.floats "scales" [4] [1.0, 1.0, 0.6, 0.6]
  .ok {
    nodes := [(Node.new "Resize" ["X", "", "scales"] ["Y"])
      |>.attr "coordinate_transformation_mode" (.string "align_corners")
      |>.attr "mode" (.string "nearest") |>.attr "nearest_mode" (.string "floor")]
    inputs := [⟨"X", .f32, [1, 1, 2, 4]⟩]
    outputs := [.scalar "Y" .f32]
    initializers := [scales] }

/-- The sum of one constant of every storage kind, all but the doubles cast first. -/
def sumOfTypes : Built := do
  let bytes := [(1.5 : Binary64), 2.0].flatMap fun x => LittleEndian.write 8 x.bits.toNat
  let initializers := [
    ← Tensor.bools "bool" [2] [true, false],
    ← Tensor.int32s "int8" .i8 [2] [1, 1],
    ← Tensor.int32s "uint8" .u8 [2] [1, 1],
    ← Tensor.int32s "uint16" .u16 [2] [1, 1],
    ← Tensor.uint64s "uint32" .u32 [2] [1, 1],
    ← Tensor.uint64s "uint64" .u64 [2] [1, 1],
    ← Tensor.doubles "double" [2] [1.0, 1.0],
    ← Tensor.raw "raw" .f64 [2] bytes]
  let narrow := ["bool", "int8", "uint8", "uint16", "uint32", "uint64"]
  let casts := narrow.map fun source =>
    (Node.new "Cast" [source] ["o_" ++ source]).attr "to" (.int 11)
  let sum := Node.new "Sum" (narrow.map ("o_" ++ ·) ++ ["double", "raw"]) ["out"]
  .ok {
    nodes := casts ++ [sum]
    inputs := []
    outputs := [⟨"out", .f64, [2]⟩]
    initializers := initializers }

end OnnxCorpus.Corpus
