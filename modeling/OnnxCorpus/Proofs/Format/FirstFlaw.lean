import OnnxCorpus.Proofs.Format.Described

/-!
# The first flaw of a message

A graph message that is not supported is refused for its first part that is not: of its nodes with
their attributes and, where they stand, the messages of bodies, then of its inputs, its outputs and
its initializers (`Graph.ofFields_eq_error_iff`). With what is read otherwise, that is all that
comes of a message short of a crash (`Model.decode_outcome_iff`).
-/

namespace OnnxCorpus

open Wire Format Fallible

variable {fields : List Field} {cause : DecodeError}

/-! ### Texts -/

theorem isText_iff {bytes : List UInt8} : IsText bytes ↔ Utf8Fault.locate bytes = none :=
  Utf8Fault.locate_eq_none_iff.symm

theorem Format.decodeText_eq_error_iff {bytes : List UInt8} :
    decodeText bytes = .error (.error cause) ↔
      ∃ fault, Utf8Fault.locate bytes = some fault ∧ .text fault = cause := by
  rw [decodeText]
  cases found : ofUtf8? bytes with
  | some text =>
    have fine : Utf8Fault.locate bytes = none :=
      isText_iff.1 ⟨text, ofUtf8?_eq_some_iff.1 found⟩
    simp [fine]
  | none =>
    cases located : Utf8Fault.locate bytes with
    | none =>
      obtain ⟨text, rfl⟩ := isText_iff.2 located
      rw [ofUtf8?_utf8] at found
      cases found
    | some fault => simp [refuse]

theorem Format.mapM_decodeText_eq_error_iff {strings : List (List UInt8)} :
    strings.mapM decodeText = .error (.error cause) ↔ ∃ bytes, FirstPast IsText strings bytes ∧
      ∃ fault, Utf8Fault.locate bytes = some fault ∧ .text fault = cause := by
  have passed (bytes : List UInt8) : (∃ text, decodeText bytes = .ok text) ↔ IsText bytes := by
    simp only [decodeText_eq_ok_iff]
    rfl
  simp only [mapM_eq_error_iff, reached_iff_firstPast passed, decodeText_eq_error_iff]

/-! ### Values -/

/-- What is wrong with a value message: it has no tensor type, or an unknown element type. -/
inductive ValueInfo.Flaw (fields : List Field) : DecodeError → Prop
  | notATensor (absent : tensorType? fields = none) :
      Flaw fields (.notATensor (Content.text 1 fields))
  | element {tensorType : List Field} (found : tensorType? fields = some tensorType)
      (unknown : ∀ type : ElementType, int32 1 tensorType ≠ type.code) :
      Flaw fields (.unsupportedElement (int32 1 tensorType))

theorem Format.elementType_eq_error_iff {number : Nat} :
    elementType number fields = .error (.error cause) ↔
      (∀ type : ElementType, int32 number fields ≠ type.code) ∧
        .unsupportedElement (int32 number fields) = cause := by
  simp only [ne_eq, ← ElementType.ofCode?_eq_some_iff]
  cases found : ElementType.ofCode? (int32 number fields) <;> simp [elementType, found, refuse]

theorem ValueInfo.ofFields_eq_error_iff :
    ofFields fields = .error (.error cause) ↔ Flaw fields cause := by
  unfold ofFields
  constructor
  · intro failed
    split at failed
    · next absent =>
      obtain rfl : _ = cause := by simpa [refuse] using failed
      exact .notATensor absent
    · next tensorType found =>
      have element : elementType 1 tensorType = .error (.error cause) := by
        simpa [bind_eq_error_iff] using failed
      obtain ⟨unknown, rfl⟩ := elementType_eq_error_iff.1 element
      exact .element found unknown
  · rintro (absent | ⟨found, unknown⟩)
    · rw [tensorType?] at absent
      simp only [absent]
      rfl
    · rw [tensorType?] at found
      have element := elementType_eq_error_iff.2 ⟨unknown, rfl⟩
      simp only [found, element, error_bind]

/-! ### Tensors -/

namespace Tensor

theorem readDims_eq_error_iff {name : String} {dims : List UInt64} :
    readDims name dims = .error (.error cause) ↔
      ∃ d, FirstPast IsSigned dims d ∧ ¬IsSigned d ∧ .negativeDim name d.toInt64 = cause := by
  induction dims with
  | nil => simp [readDims, FirstPast]
  | cons d rest ih =>
    rw [readDims]
    simp only [firstPast_cons_iff, toInt64_neg_iff]
    split
    · next negative => simp [refuse, negative]
    · next positive =>
      have signed : IsSigned d := Decidable.not_not.1 positive
      simp [bind_eq_error_iff, ih, signed]

/-- What is wrong with a tensor message: an unknown element type, a negative dim, or a tensor that
does not pass the checks. -/
inductive Flaw (fields : List Field) : DecodeError → Prop
  | element (unknown : ∀ type : ElementType, int32 2 fields ≠ type.code) :
      Flaw fields (.unsupportedElement (int32 2 fields))
  | negative {type : ElementType} {d : UInt64} (known : int32 2 fields = type.code)
      (first : FirstPast IsSigned (Content.varints 1 fields) d) (below : ¬IsSigned d) :
      Flaw fields (.negativeDim (Content.text 8 fields) d.toInt64)
  | storage {t : Tensor} (described : Describes fields t) (fits : t.Fits)
      (refused : ¬t.payload.storage.accepts t.type) :
      Flaw fields (.tensor (.storageMismatch t.name t.type t.payload.storage))
  | count {t : Tensor} (described : Describes fields t) (fits : t.Fits)
      (held : t.payload.storage.accepts t.type) (bounded : ¬ProductOverflows t.dims)
      (wrong : elementCount t.dims ≠ t.payload.count t.type ∨ t.payload.isRagged t.type) :
      Flaw fields (.tensor (.elementCount t.name t.dims (elementCount t.dims)
        (t.payload.count t.type)))

theorem ofFields_eq_error_iff :
    ofFields fields = .error (.error cause) ↔ Flaw fields cause := by
  have built (name : String) (type : ElementType) (dims : List UInt64) (payload : Payload) :
      (new name type dims payload).mapError (Fault.map DecodeError.tensor) =
          .error (.error cause) ↔
        ∃ inner, new name type dims payload = .error (.error inner) ∧ .tensor inner = cause := by
    rcases new name type dims payload with (_ | _) | _ <;> simp [Except.mapError, Fault.map]
  simp only [ofFields, bind_eq_error_iff, elementType_eq_error_iff, elementType_eq_ok_iff,
    readDims_eq_error_iff, readDims_eq_ok_iff, built, new_eq_error_iff]
  constructor
  · rintro (⟨unknown, rfl⟩ | ⟨type, known, ⟨d, first, below, rfl⟩ | ⟨_, ⟨fits, rfl⟩, _,
      ⟨refused, rfl⟩ | ⟨held, bounded, wrong, rfl⟩, rfl⟩⟩)
    · exact .element unknown
    · exact .negative (ElementType.ofCode?_eq_some_iff.1 known) first below
    · exact .storage (describes_iff.2 ⟨type, known, rfl⟩) fits refused
    · exact .count (describes_iff.2 ⟨type, known, rfl⟩) fits held bounded wrong
  · rintro (unknown | ⟨known, first, below⟩ | ⟨described, fits, refused⟩ |
      ⟨described, fits, held, bounded, wrong⟩)
    · exact .inl ⟨unknown, rfl⟩
    · exact .inr ⟨_, ElementType.ofCode?_eq_some_iff.2 known, .inl ⟨_, first, below, rfl⟩⟩
    · obtain ⟨type, known, rfl⟩ := describes_iff.1 described
      exact .inr ⟨type, known, .inr ⟨_, ⟨fits, rfl⟩, _, .inl ⟨refused, rfl⟩, rfl⟩⟩
    · obtain ⟨type, known, rfl⟩ := describes_iff.1 described
      exact .inr ⟨type, known, .inr ⟨_, ⟨fits, rfl⟩, _, .inr ⟨held, bounded, wrong, rfl⟩, rfl⟩⟩

end Tensor

/-! ### Attributes -/

/-- What is wrong with an attribute message: an unknown kind, bytes that spell no text, no tensor
message or a wrong one, or no message for its body. -/
inductive Attribute.Flaw (fields : List Field) : DecodeError → Prop
  | kind (unknown : ∀ kind : AttributeKind, int32 20 fields ≠ kind.code) :
      Flaw fields (.unsupportedAttribute (Content.text 1 fields) (int32 20 fields))
  | text {fault : Utf8Fault} (kind : int32 20 fields = AttributeKind.string.code)
      (found : Utf8Fault.locate ((Content.bytes? 4 fields).getD []) = some fault) :
      Flaw fields (.text fault)
  | texts {bytes : List UInt8} {fault : Utf8Fault}
      (kind : int32 20 fields = AttributeKind.strings.code)
      (first : FirstPast IsText (Content.byteStrings 9 fields) bytes)
      (found : Utf8Fault.locate bytes = some fault) : Flaw fields (.text fault)
  | noTensor (kind : int32 20 fields = AttributeKind.tensor.code)
      (absent : Content.message? 5 fields = none) :
      Flaw fields (.noTensor (Content.text 1 fields))
  | tensor {content : List Field} {cause : DecodeError}
      (kind : int32 20 fields = AttributeKind.tensor.code)
      (found : Content.message? 5 fields = some content) (flaw : Tensor.Flaw content cause) :
      Flaw fields cause
  | noBody (kind : int32 20 fields = AttributeKind.graph.code)
      (absent : Content.message? 6 fields = none) : Flaw fields (.noBody (Content.text 1 fields))

section

variable {body : List Field → Decoded Graph}

theorem Attribute.entryWith_eq_error_iff :
    entryWith body fields = .error (.error cause) ↔
      Flaw fields cause ∨ ∃ content, HoldsBody fields content ∧
        body content = .error (.error cause) := by
  have value : entryWith body fields = .error (.error cause) ↔
      ofFieldsWith body (Content.text 1 fields) fields = .error (.error cause) := by
    simp [entryWith, bind_eq_error_iff]
  rw [value, ofFieldsWith]
  constructor
  · intro failed
    cases known : AttributeKind.ofCode? (int32 20 fields) with
    | none =>
      obtain rfl : _ = cause := by simpa [known, refuse] using failed
      refine .inl (.kind fun kind code => ?_)
      simp [code] at known
    | some kind =>
      rw [known] at failed
      have code := AttributeKind.ofCode?_eq_some_iff.1 known
      cases kind with
      | float | int | floats | ints => cases failed
      | string =>
        simp only [bind_eq_error_iff, reduceCtorEq, and_false, exists_false, or_false] at failed
        obtain ⟨fault, found, rfl⟩ := decodeText_eq_error_iff.1 failed
        exact .inl (.text code found)
      | strings =>
        simp only [bind_eq_error_iff, reduceCtorEq, and_false, exists_false, or_false] at failed
        obtain ⟨bytes, first, fault, found, rfl⟩ := mapM_decodeText_eq_error_iff.1 failed
        exact .inl (.texts code first found)
      | tensor =>
        cases found : Content.message? 5 fields with
        | none =>
          obtain rfl : _ = cause := by simpa [found, refuse] using failed
          exact .inl (.noTensor code found)
        | some content =>
          simp only [found, bind_eq_error_iff, reduceCtorEq, and_false, exists_false,
            or_false] at failed
          exact .inl (.tensor code found (Tensor.ofFields_eq_error_iff.1 failed))
      | graph =>
        cases found : Content.message? 6 fields with
        | none =>
          obtain rfl : _ = cause := by simpa [found, refuse] using failed
          exact .inl (.noBody code found)
        | some content =>
          simp only [found, bind_eq_error_iff, reduceCtorEq, and_false, exists_false,
            or_false] at failed
          exact .inr ⟨content, ⟨code, found⟩, failed⟩
  · rintro ((unknown | ⟨kind, found⟩ | ⟨kind, first, found⟩ | ⟨kind, absent⟩ | ⟨kind, found, flaw⟩ |
      ⟨kind, absent⟩) | ⟨content, ⟨kind, found⟩, failed⟩)
    · have none : AttributeKind.ofCode? (int32 20 fields) = none :=
        Option.eq_none_iff_forall_ne_some.2 fun kind known =>
          unknown kind (AttributeKind.ofCode?_eq_some_iff.1 known)
      rw [none]
      rfl
    · rw [AttributeKind.ofCode?_eq_some_iff.2 kind]
      simp [decodeText_eq_error_iff.2 ⟨_, found, rfl⟩]
    · rw [AttributeKind.ofCode?_eq_some_iff.2 kind]
      simp [mapM_decodeText_eq_error_iff.2 ⟨_, first, _, found, rfl⟩]
    · rw [AttributeKind.ofCode?_eq_some_iff.2 kind]
      simp [absent, refuse]
    · rw [AttributeKind.ofCode?_eq_some_iff.2 kind]
      simp [found, Tensor.ofFields_eq_error_iff.2 flaw]
    · rw [AttributeKind.ofCode?_eq_some_iff.2 kind]
      simp [absent, refuse]
    · rw [AttributeKind.ofCode?_eq_some_iff.2 kind]
      simp [found, failed]

end

/-! ### Graphs -/

/-- An attribute message complies, and so does the message of its body at every depth. -/
def Attribute.Supported (fields : List Field) : Prop :=
  Complies fields ∧ ∀ content, HoldsBody fields content → Graph.Supported content

/-- The attribute messages of a node message are supported. -/
def Node.Supported (fields : List Field) : Prop :=
  ∀ entry ∈ Content.messages 5 fields, Attribute.Supported entry

namespace Graph

/-- All nodes before one of a graph message are supported, and all attributes of this one before
one of them. -/
def ComesToAttribute (fields entry : List Field) : Prop :=
  ∃ node, FirstPast Node.Supported (Content.messages 1 fields) node ∧
    FirstPast Attribute.Supported (Content.messages 5 node) entry

/-- What is wrong with the first part of a graph message that is not supported. -/
inductive FirstFlaw : List Field → DecodeError → Prop
  | entry {fields entry : List Field} {cause : DecodeError}
      (reached : ComesToAttribute fields entry) (flaw : Attribute.Flaw entry cause) :
      FirstFlaw fields cause
  | body {fields entry content : List Field} {cause : DecodeError}
      (reached : ComesToAttribute fields entry) (held : Attribute.HoldsBody entry content)
      (inside : FirstFlaw content cause) : FirstFlaw fields cause
  | input {fields v : List Field} {cause : DecodeError}
      (nodes : ∀ node ∈ Content.messages 1 fields, Node.Supported node)
      (first : FirstPast ValueInfo.Supported (Content.messages 11 fields) v)
      (flaw : ValueInfo.Flaw v cause) : FirstFlaw fields cause
  | output {fields v : List Field} {cause : DecodeError}
      (nodes : ∀ node ∈ Content.messages 1 fields, Node.Supported node)
      (inputs : ∀ v ∈ Content.messages 11 fields, ValueInfo.Supported v)
      (first : FirstPast ValueInfo.Supported (Content.messages 12 fields) v)
      (flaw : ValueInfo.Flaw v cause) : FirstFlaw fields cause
  | initializer {fields t : List Field} {cause : DecodeError}
      (nodes : ∀ node ∈ Content.messages 1 fields, Node.Supported node)
      (inputs : ∀ v ∈ Content.messages 11 fields, ValueInfo.Supported v)
      (outputs : ∀ v ∈ Content.messages 12 fields, ValueInfo.Supported v)
      (first : FirstPast Tensor.Supported (Content.messages 5 fields) t)
      (flaw : Tensor.Flaw t cause) : FirstFlaw fields cause

end Graph

theorem Attribute.exists_entryWith_iff_supported :
    (∃ entry, entryWith Graph.ofFields fields = .ok entry) ↔ Supported fields := by
  simp only [exists_entryWith_iff, Graph.exists_ofFields_iff]
  rfl

theorem Node.exists_ofFieldsWith_iff_supported :
    (∃ node, ofFieldsWith Graph.ofFields fields = .ok node) ↔ Supported fields := by
  simp only [exists_ofFieldsWith_iff, Graph.exists_ofFields_iff]
  rfl

theorem Node.ofFieldsWith_eq_error_iff :
    ofFieldsWith Graph.ofFields fields = .error (.error cause) ↔
      ∃ entry, FirstPast Attribute.Supported (Content.messages 5 fields) entry ∧
        Attribute.entryWith Graph.ofFields entry = .error (.error cause) := by
  simp [ofFieldsWith, bind_eq_error_iff, mapM_eq_error_iff,
    reached_iff_firstPast fun _ => Attribute.exists_entryWith_iff_supported]

/-- The four places of a graph message where its first flaw can be. -/
theorem Graph.ofFields_eq_error_iff_parts :
    ofFields fields = .error (.error cause) ↔
      (∃ entry, ComesToAttribute fields entry ∧
        Attribute.entryWith ofFields entry = .error (.error cause)) ∨
      (∀ node ∈ Content.messages 1 fields, Node.Supported node) ∧
        ((∃ v, FirstPast ValueInfo.Supported (Content.messages 11 fields) v ∧
          ValueInfo.Flaw v cause) ∨
        (∀ v ∈ Content.messages 11 fields, ValueInfo.Supported v) ∧
          ((∃ v, FirstPast ValueInfo.Supported (Content.messages 12 fields) v ∧
            ValueInfo.Flaw v cause) ∨
          (∀ v ∈ Content.messages 12 fields, ValueInfo.Supported v) ∧
            ∃ t, FirstPast Tensor.Supported (Content.messages 5 fields) t ∧
              Tensor.Flaw t cause)) := by
  have nodes : (∃ ns, (Content.messages 1 fields).mapM (Node.ofFieldsWith ofFields) = .ok ns) ↔
      ∀ node ∈ Content.messages 1 fields, Node.Supported node := by
    simp only [exists_mapM_eq_ok_iff, Node.exists_ofFieldsWith_iff_supported]
  have values (n : Nat) : (∃ vs, (Content.messages n fields).mapM ValueInfo.ofFields = .ok vs) ↔
      ∀ v ∈ Content.messages n fields, ValueInfo.Supported v := by
    simp only [exists_mapM_eq_ok_iff, ValueInfo.exists_ofFields_iff]
  have inNode : (Content.messages 1 fields).mapM (Node.ofFieldsWith ofFields) =
        .error (.error cause) ↔ ∃ entry, ComesToAttribute fields entry ∧
          Attribute.entryWith ofFields entry = .error (.error cause) := by
    simp only [mapM_eq_error_iff, Node.ofFieldsWith_eq_error_iff, ComesToAttribute,
      reached_iff_firstPast fun _ => Node.exists_ofFieldsWith_iff_supported]
    grind
  have inValue (n : Nat) : (Content.messages n fields).mapM ValueInfo.ofFields =
        .error (.error cause) ↔ ∃ v, FirstPast ValueInfo.Supported (Content.messages n fields) v ∧
          ValueInfo.Flaw v cause := by
    simp only [mapM_eq_error_iff, ValueInfo.ofFields_eq_error_iff,
      reached_iff_firstPast fun _ => ValueInfo.exists_ofFields_iff]
  have inTensor : (Content.messages 5 fields).mapM Tensor.ofFields =
        .error (.error cause) ↔ ∃ t, FirstPast Tensor.Supported (Content.messages 5 fields) t ∧
          Tensor.Flaw t cause := by
    simp only [mapM_eq_error_iff, Tensor.ofFields_eq_error_iff,
      reached_iff_firstPast fun _ => Tensor.exists_ofFields_iff]
  rw [ofFields_eq, ← nodes, ← values 11, ← values 12, ← inNode, ← inValue 11, ← inValue 12,
    ← inTensor]
  simp [ofFieldsWith, bind_eq_error_iff]

/-- A graph message is refused for the first of its parts that is not supported. -/
theorem Graph.ofFields_eq_error_iff :
    ofFields fields = .error (.error cause) ↔ FirstFlaw fields cause := by
  constructor
  · intro failed
    induction fields using Graph.inductionOnMessages with
    | step fields ih =>
      rcases ofFields_eq_error_iff_parts.1 failed with ⟨entry, reached, failed⟩ |
        ⟨nodes, ⟨v, first, flaw⟩ | ⟨inputs, ⟨v, first, flaw⟩ | ⟨outputs, t, first, flaw⟩⟩⟩
      · rcases Attribute.entryWith_eq_error_iff.1 failed with flaw | ⟨content, held, failed⟩
        · exact .entry reached flaw
        · refine .body reached held (ih content ?_ failed)
          obtain ⟨node, first, first'⟩ := reached
          exact ⟨node, first.mem, entry, first'.mem, held⟩
      · exact .input nodes first flaw
      · exact .output nodes inputs first flaw
      · exact .initializer nodes inputs outputs first flaw
  · intro first
    rw [ofFields_eq_error_iff_parts]
    induction first with
    | entry reached flaw =>
      exact .inl ⟨_, reached, Attribute.entryWith_eq_error_iff.2 (.inl flaw)⟩
    | body reached held _ ih =>
      have failed := ofFields_eq_error_iff_parts.2 ih
      exact .inl ⟨_, reached, Attribute.entryWith_eq_error_iff.2 (.inr ⟨_, held, failed⟩)⟩
    | input nodes first flaw => exact .inr ⟨nodes, .inl ⟨_, first, flaw⟩⟩
    | output nodes inputs first flaw => exact .inr ⟨nodes, .inr ⟨inputs, .inl ⟨_, first, flaw⟩⟩⟩
    | initializer nodes inputs outputs first flaw =>
      exact .inr ⟨nodes, .inr ⟨inputs, .inr ⟨outputs, _, first, flaw⟩⟩⟩

/-! ### Models -/

namespace Model

/-- A model message has a graph message, and this is supported. -/
def Supported (fields : List Field) : Prop :=
  ∃ graph, Content.message? 7 fields = some graph ∧ Graph.Supported graph

/-- A model message describes its graph and names what produced it. -/
def Describes (fields : List Field) (m : Model) : Prop :=
  ∃ graph, Content.message? 7 fields = some graph ∧ Graph.Describes graph m.graph ∧
    m.producer = Content.text 2 fields

/-- What is wrong with a model message: no graph message, or the first flaw of this. -/
inductive FirstFlaw (fields : List Field) : DecodeError → Prop
  | noGraph (absent : Content.message? 7 fields = none) : FirstFlaw fields .noGraph
  | graph {graph : List Field} {cause : DecodeError}
      (found : Content.message? 7 fields = some graph) (flaw : Graph.FirstFlaw graph cause) :
      FirstFlaw fields cause

theorem ofFields_eq_ok_iff {m : Model} :
    ofFields fields = .ok m ↔ Supported fields ∧ Describes fields m := by
  rw [ofFields, Supported, Describes]
  cases Content.message? 7 fields with
  | none => simp [refuse]
  | some graph =>
    simp only [bind_eq_ok_iff, Graph.ofFields_eq_ok_iff, Option.some.injEq, exists_eq_left']
    constructor
    · rintro ⟨g, ⟨supported, described⟩, result⟩
      obtain rfl := Except.ok.inj result
      exact ⟨supported, described, rfl⟩
    · rintro ⟨supported, described, producer⟩
      exact ⟨m.graph, ⟨supported, described⟩, by rw [← producer]⟩

theorem exists_ofFields_iff : (∃ m, ofFields fields = .ok m) ↔ Supported fields := by
  rw [Supported]
  unfold ofFields
  cases Content.message? 7 fields with
  | none => simp [refuse]
  | some graph => simp [bind_eq_ok_iff, ← Graph.exists_ofFields_iff]

theorem ofFields_eq_error_iff :
    ofFields fields = .error (.error cause) ↔ FirstFlaw fields cause := by
  rw [ofFields]
  constructor
  · intro failed
    cases found : Content.message? 7 fields with
    | none =>
      obtain rfl : _ = cause := by simpa [found, refuse] using failed
      exact .noGraph found
    | some graph =>
      simp only [found, bind_eq_error_iff, reduceCtorEq, and_false, exists_false, or_false] at failed
      exact .graph found (Graph.ofFields_eq_error_iff.1 failed)
  · rintro (absent | ⟨found, flaw⟩)
    · simp [absent, refuse]
    · simp [found, Graph.ofFields_eq_error_iff.2 flaw]

/-- A file whose message can be parsed is loaded exactly if this is supported, and then as the model
that it describes. What it is refused for otherwise, if nothing crashes, is its first flaw. -/
theorem decode_outcome_iff {bytes : List UInt8}
    (parsed : Field.parse schema maxDepth .model bytes = .ok fields) :
    ((∃ m, decode bytes = .ok m) ↔ Supported fields) ∧
      (∀ m, decode bytes = .ok m ↔ Supported fields ∧ Describes fields m) ∧
        ∀ cause, decode bytes = .error (.error cause) ↔ FirstFlaw fields cause := by
  have same : decode bytes = ofFields fields := by rw [decode, parsed]
  simp only [same]
  exact ⟨exists_ofFields_iff, fun _ => ofFields_eq_ok_iff, fun _ => ofFields_eq_error_iff⟩

/-- The message of a graph with three flaws: in a body, in an input and in an initializer. -/
def flawed : List Field :=
  [.message 7 [
    .message 5 [.scalar 2 (.varint 99)],
    .message 11 [.text 1 "x"],
    .message 1 [.text 4 "If",
      .message 5 [.text 1 "k", .scalar 20 (.varint 2)],
      .message 5 [.text 1 "then_branch", .scalar 20 (.varint 5),
        .message 6 [.message 12 [.text 1 "z"]]]]]]

/-- Of three flaws the one in the body comes first. -/
theorem firstFlaw_flawed :
    Field.parse schema maxDepth .model (Field.writeAll flawed) = .ok flawed ∧
      FirstFlaw flawed (.notATensor "z") ∧ ¬Supported flawed := by
  have declared : ∀ f ∈ flawed, Field.Declared schema .model f := by
    rw [flawed]
    repeat' first
      | exact List.forall_mem_nil _
      | refine List.forall_mem_cons.2 ⟨?_, ?_⟩
      | refine .message rfl ?_
      | exact .text rfl
      | exact .scalar rfl
  have readable : ∀ f ∈ flawed, f.height ≤ maxDepth ∧ f.valueLength < UInt64.size := by
    decide +kernel
  have parsed : Field.parse schema maxDepth .model (Field.writeAll flawed) = .ok flawed :=
    (Field.parse_writeAll_iff schema_keyed declared).2 ⟨readable, rfl⟩
  have refused : decode (Field.writeAll flawed) = .error (.error (.notATensor "z")) := by
    rw [decode, parsed]
    rfl
  obtain ⟨read, -, failed⟩ := decode_outcome_iff parsed
  refine ⟨parsed, (failed _).1 refused, fun supported => ?_⟩
  obtain ⟨m, loaded⟩ := read.2 supported
  rw [refused] at loaded
  cases loaded

end Model

end OnnxCorpus
