import OnnxCorpus.Graph

/-!
# Summaries of models

The lines that describe a model: its graph and producer, then its inputs, outputs, initializers
and nodes.
-/

namespace OnnxCorpus

/-- A dim in a summary. -/
def Dim.summary : Dim → String
  | fixed size => s!"Fixed({size.toNat})"
  | param name => s!"Param({Text.quoted name})"
  | unknown => "Unknown"

/-- A value in a summary, without its role. -/
def ValueInfo.summary (v : ValueInfo) : String :=
  s!"{v.name} {v.type.name} {Text.bracketed (v.shape.map Dim.summary)}"

/-- A tensor in a summary, without its role. -/
def Tensor.summary (t : Tensor) : String :=
  s!"{t.name} {t.type.name} {Text.numberList t.dims}"

/-- A node in a summary. -/
def Node.summary (n : Node) : String :=
  s!"{n.opType} {Text.quotedList n.inputs} -> {Text.quotedList n.outputs}"

/-- The lines of the summary of a model. -/
def Model.summary (m : Model) : List String :=
  [s!"graph {m.graph.name} (producer {m.producer})"] ++
    m.graph.inputs.map (fun v => "  input  " ++ v.summary) ++
    m.graph.outputs.map (fun v => "  output " ++ v.summary) ++
    m.graph.initializers.map (fun t => "  init   " ++ t.summary) ++
    m.graph.nodes.map (fun n => "  " ++ n.summary)

end OnnxCorpus
