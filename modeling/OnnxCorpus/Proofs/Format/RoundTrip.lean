import OnnxCorpus.Proofs.Format.ReadBack

/-!
# Writing a model and reading it

Only a file whose messages nest too deep or whose lengths leave 64 bits, or a tensor with a dim
from `2 ^ 63` on, keeps a written model from being read; what is read is then `Model.readBack`
(`Model.decode_encode_eq_ok_iff`). So a model comes back exactly if all its sizes are below
`2 ^ 63`, and one that comes back changed has a shape with a larger size.
-/

namespace OnnxCorpus

open Wire Format Fallible

/-- The sizes of a graph itself, of its tensors and of its values, are numbers that a file holds as
signed ones. -/
structure Graph.Fits (g : Graph) : Prop where
  tensors : ∀ t ∈ g.tensors, t.Fits
  dims : ∀ d ∈ g.dims, d.Fits

instance : DecidablePred Graph.Fits := fun g =>
  decidable_of_iff ((∀ t ∈ g.tensors, t.Fits) ∧ ∀ d ∈ g.dims, d.Fits)
    ⟨fun ⟨tensors, dims⟩ => ⟨tensors, dims⟩, fun ⟨tensors, dims⟩ => ⟨tensors, dims⟩⟩

theorem Graph.everywhere_fits_iff {g : Graph} :
    g.Everywhere Graph.Fits ↔ g.Everywhere (fun h => ∀ t ∈ h.tensors, t.Fits) ∧
      g.Everywhere fun h => ∀ d ∈ h.dims, d.Fits :=
  ⟨fun fit => ⟨fun entry member => (fit entry member).tensors,
    fun entry member => (fit entry member).dims⟩,
    fun ⟨tensors, dims⟩ entry member => ⟨tensors entry member, dims entry member⟩⟩

namespace Model

variable {versions : Versions} {m read : Model} {bytes : List UInt8}

theorem eq_writeAll_of_encode (encoded : m.encode versions = .ok bytes) :
    bytes = Field.writeAll (m.toFields versions) := by
  unfold encode at encoded
  split at encoded
  · cases encoded
  · split at encoded
    · cases encoded
    · exact (Except.ok.inj encoded).symm

/-- The bytes of a model are read as `readBack`, or not at all. -/
theorem decode_encode_eq_ok_iff (formed : m.graph.Everywhere Graph.IsFormed)
    (encoded : m.encode versions = .ok bytes) :
    decode bytes = .ok read ↔
      ((∀ f ∈ m.toFields versions, f.height ≤ maxDepth ∧ f.valueLength < UInt64.size) ∧
        m.graph.Everywhere fun h => ∀ t ∈ h.tensors, t.Fits) ∧ read = m.readBack := by
  obtain rfl := eq_writeAll_of_encode encoded
  have parsed (fields : List Field) :
      Field.parse schema maxDepth .model (Field.writeAll (m.toFields versions)) = .ok fields ↔
        (∀ f ∈ m.toFields versions, f.height ≤ maxDepth ∧ f.valueLength < UInt64.size) ∧
          fields = m.toFields versions :=
    Field.parse_writeAll_iff schema_keyed (declared versions m)
  rw [decode]
  cases outcome : Field.parse schema maxDepth .model (Field.writeAll (m.toFields versions)) with
  | error cause =>
    have refused : ¬∀ f ∈ m.toFields versions, f.height ≤ maxDepth ∧ f.valueLength < UInt64.size :=
      fun fine => by simp [(parsed _).2 ⟨fine, rfl⟩] at outcome
    simp [refuse, refused]
  | ok fields =>
    obtain ⟨fine, rfl⟩ := (parsed fields).1 outcome
    simp only [ofFields_toFields_iff formed]
    grind

/-- Bodies up to 31 deep, three messages each, stay within the nesting that is read. -/
theorem toFields_readable (shallow : m.graph.NestsWithin 31)
    (addressable : (Field.writeAll (m.toFields versions)).length < UInt64.size) :
    ∀ f ∈ m.toFields versions, f.height ≤ maxDepth ∧ f.valueLength < UInt64.size := by
  intro f member
  have height : f.height ≤ 3 * 31 + 6 := height_le shallow f member
  have length : f.valueLength ≤ (Field.writeAll (m.toFields versions)).length :=
    Nat.le_trans f.valueLength_le_length_write (Field.length_write_le_of_mem member)
  exact ⟨Nat.le_trans height (by decide), Nat.lt_of_le_of_lt length addressable⟩

/-- Of a model whose tensors are checked and whose bodies nest at most 31 deep, the file is read
as the same model exactly if every size in it, at any depth, is below `2 ^ 63`. A file is
addressed with 64 bits. -/
theorem decode_encode_iff (formed : m.graph.Everywhere Graph.IsFormed)
    (shallow : m.graph.NestsWithin 31) (addressable : bytes.length < UInt64.size)
    (encoded : m.encode versions = .ok bytes) :
    decode bytes = .ok m ↔ m.graph.Everywhere Graph.Fits := by
  obtain rfl := eq_writeAll_of_encode encoded
  have readable := toFields_readable shallow addressable
  rw [decode_encode_eq_ok_iff formed encoded, and_iff_right readable, eq_comm,
    readBack_eq_self_iff, Graph.everywhere_fits_iff]

/-- A model of one branch, whose body holds a constant that is not a number and declares a value
of a size. -/
def branching (size : UInt64) : Model where
  graph := {
    name := "g"
    nodes := [(Node.new "If" ["c"] ["y"]).attr "then_branch" (.graph {
      name := "body"
      nodes := [(Node.new "Constant" [] ["z"]).attr "value"
        (.tensor ⟨"t", .f32, [1], .float [⟨0x7fc00001⟩]⟩)]
      inputs := []
      outputs := [⟨"z", .f32, [.fixed size]⟩]
      initializers := [] })]
    inputs := [.scalar "c" .bool]
    outputs := [⟨"y", .f32, [.fixed size, .param "n", .unknown]⟩]
    initializers := [] }
  producer := "p"

theorem decode_encode_branching :
    ∃ bytes, (branching 0x7fffffffffffffff).encode {} = .ok bytes ∧
      decode bytes = .ok (branching 0x7fffffffffffffff) := by
  have encoded : (branching 0x7fffffffffffffff).encode {} =
      .ok (Field.writeAll ((branching 0x7fffffffffffffff).toFields {})) := by
    decide +kernel
  refine ⟨_, encoded, ?_⟩
  exact (decode_encode_iff (by decide +kernel) (by decide +kernel) (by decide +kernel)
    encoded).2 (by decide +kernel)

/-! ### Sizes that do not come back -/

/-- What comes back of a written model is `readBack`, whatever its sizes and nesting, and it is
the model exactly if every fixed size in a shape, at any depth, is below `2 ^ 63`. -/
theorem decode_encode_eq_self_iff (formed : m.graph.Everywhere Graph.IsFormed)
    (encoded : m.encode versions = .ok bytes) (decoded : decode bytes = .ok read) :
    read = m.readBack ∧ (read = m ↔ m.graph.Everywhere fun h => ∀ d ∈ h.dims, d.Fits) := by
  obtain ⟨-, rfl⟩ := (decode_encode_eq_ok_iff formed encoded).1 decoded
  exact ⟨rfl, readBack_eq_self_iff⟩

theorem encode_branching_large :
    (branching 0x8000000000000000).encode {} =
      .ok (Field.writeAll ((branching 0x8000000000000000).toFields {})) := by
  decide +kernel

theorem decode_branching_large :
    decode (Field.writeAll ((branching 0x8000000000000000).toFields {})) =
      .ok (branching 0x8000000000000000).readBack :=
  (decode_encode_eq_ok_iff (by decide +kernel) encode_branching_large).2
    ⟨⟨by decide +kernel, by decide +kernel⟩, rfl⟩

theorem readBack_branching_large :
    (branching 0x8000000000000000).readBack ≠ branching 0x8000000000000000 := by
  intro unchanged
  have large : ¬(branching 0x8000000000000000).graph.Everywhere fun h => ∀ d ∈ h.dims, d.Fits := by
    decide +kernel
  exact large ((decode_encode_eq_self_iff (by decide +kernel) encode_branching_large
    decode_branching_large).2.1 unchanged)

/-- A model whose tensors are checked is written, and its file read as another model. -/
theorem exists_decode_encode_ne :
    ∃ m bytes read, m.graph.Everywhere Graph.IsFormed ∧ m.encode {} = .ok bytes ∧
      decode bytes = .ok read ∧ read ≠ m := by
  refine ⟨branching 0x8000000000000000, _, _, by decide +kernel, encode_branching_large,
    decode_branching_large, ?_⟩
  rw [Ne, readBack_eq_self_iff]
  decide +kernel

end Model

end OnnxCorpus
