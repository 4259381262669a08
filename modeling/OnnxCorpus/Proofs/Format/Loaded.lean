import OnnxCorpus.Proofs.Format.RoundTrip
import OnnxCorpus.Proofs.Tensor.Construction

/-!
# What is loaded

Whatever bytes a model is read from, it is well formed at every depth (`wellFormed_of_decode`):
its tensors are checked and complete, its attributes are ordered, and no size in it is too large for
a signed number. That is where writing is undone by reading, so a model that was loaded once is
saved and loaded without change from then on (`Model.decode_encode_of_decode`).
-/

namespace OnnxCorpus

open Wire Format Fallible

/-! ### Tensors -/

namespace Tensor

/-- A tensor has a type that its storage can hold, exactly as many elements as its dims say, in raw
storage as many bytes as these take, and dims that signed numbers can be. -/
structure WellFormed (t : Tensor) : Prop where
  typed : t.type ≠ .undefined
  held : t.payload.storage.accepts t.type
  counted : t.payload.count t.type = elementCount t.dims
  whole : ∀ bytes, t.payload = .raw bytes →
    ∃ width, t.type.byteWidth = some width ∧ bytes.length = elementCount t.dims * width
  fits : ∀ d ∈ t.dims, IsSigned d

theorem IsChecked.wellFormed {t : Tensor} (checked : t.IsChecked) (fits : t.Fits) :
    t.WellFormed := by
  obtain ⟨⟨held, -, counted, whole⟩, -⟩ := new_eq_ok_iff.1 checked
  refine ⟨?_, held, counted, ?_, fits⟩
  · intro untyped
    rw [untyped] at held
    cases payload : t.payload <;> rw [payload] at held <;> cases held
  · intro bytes raw
    rw [raw] at held counted whole
    obtain ⟨width, found⟩ := Option.isSome_iff_exists.1 held
    have divides : bytes.length % width = 0 := by
      simpa [Payload.isRagged, found] using whole
    have elements : bytes.length / width = elementCount t.dims := by
      simpa [Payload.count, found] using counted
    exact ⟨width, found, by rw [← elements, Nat.div_mul_cancel (Nat.dvd_of_mod_eq_zero divides)]⟩

theorem isChecked_of_ofFields {fields : List Field} {t : Tensor} (read : ofFields fields = .ok t) :
    t.IsChecked ∧ t.Fits := by
  simp only [ofFields, bind_eq_ok_iff, readDims_eq_ok_iff, mapError_eq_ok_iff] at read
  obtain ⟨type, -, dims, ⟨fits, rfl⟩, built⟩ := read
  obtain ⟨-, rfl⟩ := new_eq_ok_iff.1 built
  exact ⟨built, fits⟩

end Tensor

/-! ### Shapes -/

theorem Dim.fits_ofInt64 (n : UInt64) : (ofInt64 n.toInt64).Fits := by
  rw [ofInt64]
  split
  · trivial
  · next positive =>
    have signed : IsSigned n := Decidable.not_not.1 (mt toInt64_neg_iff.2 positive)
    simpa [Fits] using signed

theorem Dim.fits_ofFields (fields : List Field) : (ofFields fields).Fits := by
  have each : ∀ d ∈ fields.filterMap ofField?, d.Fits := by
    intro d member
    obtain ⟨f, -, found⟩ := List.mem_filterMap.1 member
    unfold ofField? at found
    split at found
    · next n => exact Option.some.inj found ▸ fits_ofInt64 n
    · exact Option.some.inj found ▸ trivial
    · cases found
  rw [ofFields]
  cases last : (fields.filterMap ofField?).getLast? with
  | none => trivial
  | some d => exact each d (List.mem_of_getLast? last)

theorem ValueInfo.fits_of_ofFields {fields : List Field} {v : ValueInfo}
    (read : ofFields fields = .ok v) : ∀ d ∈ v.shape, d.Fits := by
  rw [ofFields] at read
  split at read
  · cases read
  · simp only [bind_eq_ok_iff] at read
    obtain ⟨type, -, result⟩ := read
    obtain rfl := Except.ok.inj result
    exact List.forall_mem_map.2 fun content _ => Dim.fits_ofFields content

/-! ### Nodes and graphs -/

section

variable {body : List Field → Decoded Graph} {fields : List Field}

theorem Attribute.parts_of_ofFieldsWith {name : String} {value : Attribute}
    (read : ofFieldsWith body name fields = .ok value) :
    (∀ t, value.tensor? = some t → t.IsChecked ∧ t.Fits) ∧
      ∀ b, value.body? = some b → ∃ content, body content = .ok b := by
  rw [ofFieldsWith] at read
  cases kind : AttributeKind.ofCode? (int32 20 fields) with
  | none => simp [kind, refuse] at read
  | some k =>
    rw [kind] at read
    cases k with
    | float | int | floats | ints =>
      obtain rfl := Except.ok.inj read
      simp [tensor?, body?]
    | string | strings =>
      simp only [bind_eq_ok_iff] at read
      obtain ⟨_, -, result⟩ := read
      obtain rfl := Except.ok.inj result
      simp [tensor?, body?]
    | tensor =>
      cases found : Content.message? 5 fields with
      | none => simp [found, refuse] at read
      | some content =>
        simp only [found, bind_eq_ok_iff] at read
        obtain ⟨t, built, result⟩ := read
        obtain rfl := Except.ok.inj result
        have sound := Tensor.isChecked_of_ofFields built
        simpa [tensor?, body?] using sound
    | graph =>
      cases found : Content.message? 6 fields with
      | none => simp [found, refuse] at read
      | some content =>
        simp only [found, bind_eq_ok_iff] at read
        obtain ⟨b, built, result⟩ := read
        obtain rfl := Except.ok.inj result
        simpa [tensor?, body?] using ⟨content, built⟩

/-- A node is read with its attributes in order, whatever their order and number in the message. -/
theorem Node.parts_of_ofFieldsWith {node : Node} (read : ofFieldsWith body fields = .ok node) :
    Table.Ordered node.attributes ∧ (∀ t ∈ node.tensors, t.IsChecked ∧ t.Fits) ∧
      ∀ b ∈ node.bodies, ∃ content, body content = .ok b := by
  simp only [ofFieldsWith, bind_eq_ok_iff] at read
  obtain ⟨attributes, entries, result⟩ := read
  obtain rfl := Except.ok.inj result
  refine ⟨Table.ordered_ofList attributes, Node.forall_attributes_iff.1 fun entry member => ?_⟩
  obtain ⟨content, -, found⟩ := exists_mem_of_mapM_eq_ok entries (Table.mem_ofList member)
  simp only [Attribute.entryWith, bind_eq_ok_iff] at found
  obtain ⟨value, built, same⟩ := found
  obtain rfl := Except.ok.inj same
  exact Attribute.parts_of_ofFieldsWith built

theorem Graph.parts_of_ofFieldsWith {g : Graph} (read : ofFieldsWith body fields = .ok g) :
    (g.IsFormed ∧ g.Fits) ∧ ∀ b ∈ g.bodies, ∃ content, body content = .ok b := by
  simp only [ofFieldsWith, bind_eq_ok_iff] at read
  obtain ⟨nodes, nodesRead, inputs, inputsRead, outputs, outputsRead, tensors, tensorsRead,
    result⟩ := read
  obtain rfl := Except.ok.inj result
  have node (n) (member : n ∈ nodes) : Table.Ordered n.attributes ∧
      (∀ t ∈ n.tensors, t.IsChecked ∧ t.Fits) ∧ ∀ b ∈ n.bodies, ∃ content, body content = .ok b := by
    obtain ⟨content, -, found⟩ := exists_mem_of_mapM_eq_ok nodesRead member
    exact Node.parts_of_ofFieldsWith found
  have tensor : ∀ t ∈ tensors ++ nodes.flatMap Node.tensors, t.IsChecked ∧ t.Fits := by
    rw [List.forall_mem_append, List.forall_mem_flatMap]
    refine ⟨fun t member => ?_, fun n member => (node n member).2.1⟩
    obtain ⟨content, -, found⟩ := exists_mem_of_mapM_eq_ok tensorsRead member
    exact Tensor.isChecked_of_ofFields found
  have dims : ∀ d ∈ (inputs ++ outputs).flatMap (·.shape), d.Fits := by
    rw [List.forall_mem_flatMap, List.forall_mem_append]
    constructor
    · intro v member
      obtain ⟨content, -, found⟩ := exists_mem_of_mapM_eq_ok inputsRead member
      exact ValueInfo.fits_of_ofFields found
    · intro v member
      obtain ⟨content, -, found⟩ := exists_mem_of_mapM_eq_ok outputsRead member
      exact ValueInfo.fits_of_ofFields found
  refine ⟨⟨⟨fun t member => (tensor t member).1, fun n member => (node n member).1⟩,
    ⟨fun t member => (tensor t member).2, dims⟩⟩, ?_⟩
  exact List.forall_mem_flatMap.2 fun n member => (node n member).2.2

end

theorem Graph.everywhere_of_ofFieldsWithin {depth : Nat} {fields : List Field} {g : Graph}
    (read : ofFieldsWithin depth fields = .ok g) :
    g.Everywhere fun h => h.IsFormed ∧ h.Fits := by
  induction depth generalizing fields g with
  | zero => cases read
  | succ depth ih =>
    obtain ⟨here, bodies⟩ := Graph.parts_of_ofFieldsWith read
    refine Graph.everywhere_iff.2 ⟨here, fun b member => ?_⟩
    obtain ⟨content, found⟩ := bodies b member
    exact ih found

/-! ### Models -/

/-- What a graph itself, apart from its bodies, is promised to be once it is loaded. -/
structure Graph.WellFormed (g : Graph) : Prop where
  tensors : ∀ t ∈ g.tensors, t.WellFormed
  dims : ∀ d ∈ g.dims, d.Fits
  attributes : ∀ node ∈ g.nodes, Table.Ordered node.attributes

namespace Model

variable {bytes saved : List UInt8} {m : Model}

theorem everywhere_of_decode (loaded : decode bytes = .ok m) :
    m.graph.Everywhere fun h => h.IsFormed ∧ h.Fits := by
  rw [decode] at loaded
  split at loaded
  · cases loaded
  · rw [ofFields] at loaded
    split at loaded
    · cases loaded
    · simp only [bind_eq_ok_iff] at loaded
      obtain ⟨g, read, result⟩ := loaded
      obtain rfl := Except.ok.inj result
      exact Graph.everywhere_of_ofFieldsWithin read

/-- A message with a graph as another program may write it: in two parts, with sizes below zero,
names left out, an attribute that is set twice, and a tensor that has typed elements besides its
raw bytes. -/
def foreignFields : List Field := [
  .message 7 [.text 2 "g",
    .message 12 [.text 1 "y", .message 2 [.message 1 [.scalar 1 (.varint 1),
      .message 2 [.message 1 [.scalar 1 (.varint 0xffffffffffffffff)], .message 1 []]]]]],
  .message 7 [
    .message 1 [.text 4 "If", .text 2 "y",
      .message 5 [.text 1 "k", .scalar 20 (.varint 2)],
      .message 5 [.text 1 "b", .scalar 20 (.varint 5), .message 6 [.text 2 "body",
        .message 5 [.packed 1 [.varint 1], .scalar 2 (.varint 1), .bytes 9 [1, 0, 0xc0, 0x7f],
          .packed 4 [.fixed32 0]]]],
      .message 5 [.text 1 "k", .scalar 20 (.varint 2), .scalar 3 (.varint 5),
        .scalar 3 (.varint 7)]],
    .message 11 [.message 2 [.message 1 [.scalar 1 (.varint 7)]]]]]

/-- The bytes of that message. -/
def foreign : List UInt8 := Field.writeAll foreignFields

/-- The model in those bytes. -/
def ofForeign : Model where
  graph := {
    name := "g"
    nodes := [(Node.new "If" [] ["y"])
      |>.attr "b" (.graph { Graph.empty "body" with
        initializers := [⟨"", .f32, [1], .raw [1, 0, 0xc0, 0x7f]⟩] })
      |>.attr "k" (.int 7)]
    inputs := [⟨"", .i64, []⟩]
    outputs := [⟨"y", .f32, [.unknown, .unknown]⟩]
    initializers := [] }
  producer := ""

theorem declared_foreignFields : ∀ f ∈ foreignFields, Field.Declared schema .model f := by
  rw [foreignFields]
  repeat' first
    | exact List.forall_mem_nil _
    | refine List.forall_mem_cons.2 ⟨?_, ?_⟩
    | refine .message rfl ?_
    | exact .text rfl
    | exact .bytes rfl
    | exact .scalar rfl
    | exact .element rfl
    | exact .packed rfl (by decide)

theorem decode_foreign : decode foreign = .ok ofForeign := by
  have readable : ∀ f ∈ foreignFields, f.height ≤ maxDepth ∧ f.valueLength < UInt64.size := by
    decide +kernel
  have parsed := (Field.parse_writeAll_iff schema_keyed declared_foreignFields).2 ⟨readable, rfl⟩
  rw [decode, foreign, parsed]
  rfl

/-- Whatever bytes a model is loaded from, it is well formed at every depth. -/
theorem wellFormed_of_decode (loaded : decode bytes = .ok m) :
    m.graph.Everywhere Graph.WellFormed := by
  intro entry member
  obtain ⟨formed, fits⟩ := everywhere_of_decode loaded entry member
  exact ⟨fun t among => (formed.tensors t among).wellFormed (fits.tensors t among), fits.dims,
    formed.attributes⟩

theorem wellFormed_ofForeign :
    decode foreign = .ok ofForeign ∧ ofForeign.graph.Everywhere Graph.WellFormed :=
  ⟨decode_foreign, wellFormed_of_decode decode_foreign⟩

/-- A model that was loaded from any bytes is saved as bytes that it is loaded from again, unless
its bodies nest more than 31 deep. A file is addressed with 64 bits. -/
theorem decode_encode_of_decode (loaded : decode bytes = .ok m)
    (shallow : m.graph.NestsWithin 31) {versions : Versions}
    (encoded : m.encode versions = .ok saved) (addressable : saved.length < UInt64.size) :
    decode saved = .ok m := by
  have sound := everywhere_of_decode loaded
  have formed : m.graph.Everywhere Graph.IsFormed := fun entry member => (sound entry member).1
  have fits : m.graph.Everywhere Graph.Fits := fun entry member => (sound entry member).2
  obtain ⟨tensors, dims⟩ := Graph.everywhere_fits_iff.1 fits
  have unchanged : m.readBack = m := readBack_eq_self_iff.2 dims
  have readable : ∀ f ∈ m.toFields versions,
      f.height ≤ maxDepth ∧ f.valueLength < UInt64.size := by
    refine toFields_readable shallow ?_
    rwa [← eq_writeAll_of_encode encoded]
  exact (decode_encode_eq_ok_iff formed encoded).2 ⟨⟨readable, tensors⟩, unchanged.symm⟩

theorem decode_encode_ofForeign :
    ∃ saved, ofForeign.encode {} = .ok saved ∧ saved ≠ foreign ∧ decode saved = .ok ofForeign := by
  have encoded : ofForeign.encode {} = .ok (Field.writeAll (ofForeign.toFields {})) := by
    decide +kernel
  refine ⟨_, encoded, by decide +kernel, ?_⟩
  exact decode_encode_of_decode decode_foreign (by decide +kernel) encoded (by decide +kernel)

end Model

end OnnxCorpus
