import OnnxCorpus.Proofs.Format.Crash
import OnnxCorpus.Proofs.Format.Loaded
import OnnxCorpus.Proofs.Table
import OnnxCorpus.Proofs.Text.Utf8

/-!
# What messages describe

Which messages are read, and as what, without the order of reading. A graph message is read exactly
if it is supported, which is a condition on each of its parts and on the messages of its bodies
(`Graph.exists_ofFields_iff`), and then it is read as the graph that it describes
(`Graph.ofFields_eq_ok_iff`).
-/

namespace OnnxCorpus

open Wire Format Fallible

variable {fields : List Field}

/-! ### Dimensions and values -/

/-- A field that is one of the alternatives of a dimension. -/
inductive Dim.IsAlternative : Field → Prop
  | size (n : UInt64) : IsAlternative (.scalar 1 (.varint n))
  | param (name : String) : IsAlternative (.text 2 name)

/-- A dimension message describes the last of its alternatives. One that is a number below zero describes an
unknown size, and so does a message without alternatives. -/
inductive Dim.Describes (fields : List Field) : Dim → Prop
  | fixed {n : UInt64} (last : LastOf IsAlternative fields (.scalar 1 (.varint n)))
      (signed : IsSigned n) : Describes fields (.fixed n)
  | negative {n : UInt64} (last : LastOf IsAlternative fields (.scalar 1 (.varint n)))
      (below : ¬IsSigned n) : Describes fields .unknown
  | param {name : String} (last : LastOf IsAlternative fields (.text 2 name)) :
      Describes fields (.param name)
  | absent (none : ∀ f ∈ fields, ¬IsAlternative f) : Describes fields .unknown

/-- The message of the tensor type of a value. -/
def ValueInfo.tensorType? (fields : List Field) : Option (List Field) :=
  (Content.message? 2 fields).bind (Content.message? 1)

/-- A value message has a tensor type with the code of an element type. -/
def ValueInfo.Supported (fields : List Field) : Prop :=
  ∃ tensorType, tensorType? fields = some tensorType ∧
    ∃ type : ElementType, int32 1 tensorType = type.code

/-- A value message describes a name, an element type and a shape, which is empty if there is none. -/
structure ValueInfo.Describes (fields : List Field) (v : ValueInfo) : Prop where
  name : v.name = Content.text 1 fields
  typed : ∃ tensorType, tensorType? fields = some tensorType ∧
    int32 1 tensorType = v.type.code ∧
    List.Forall₂ Dim.Describes (Content.messages 1 ((Content.message? 2 tensorType).getD [])) v.shape

theorem Dim.isAlternative_iff {f : Field} : IsAlternative f ↔ ∃ d, ofField? f = some d := by
  constructor
  · rintro (_ | _) <;> exact ⟨_, rfl⟩
  · rintro ⟨d, found⟩
    unfold ofField? at found
    split at found
    · exact .size _
    · exact .param _
    · cases found

theorem Dim.ofInt64_eq (n : UInt64) :
    ofInt64 n.toInt64 = if IsSigned n then .fixed n else .unknown := by
  by_cases signed : IsSigned n <;> simp [ofInt64, toInt64_neg_iff, signed]

theorem Dim.getLast?_eq_some_iff {d : Dim} :
    (fields.filterMap ofField?).getLast? = some d ↔
      ∃ f, LastOf IsAlternative fields f ∧ ofField? f = some d := by
  have alternative : IsAlternative = fun f => ∃ d, ofField? f = some d :=
    funext fun f => propext isAlternative_iff
  rw [getLast?_filterMap_eq_some_iff, alternative]

theorem Dim.describes_iff {d : Dim} : Describes fields d ↔ ofFields fields = d := by
  rw [ofFields]
  constructor
  · rintro (⟨last, signed⟩ | ⟨last, below⟩ | last | none)
    · rw [getLast?_eq_some_iff.2 ⟨_, last, rfl⟩, Option.getD_some, ofInt64_eq, if_pos signed]
    · rw [getLast?_eq_some_iff.2 ⟨_, last, rfl⟩, Option.getD_some, ofInt64_eq, if_neg below]
    · rw [getLast?_eq_some_iff.2 ⟨_, last, rfl⟩, Option.getD_some]
    · have nothing : fields.filterMap ofField? = [] := by
        refine List.filterMap_eq_nil_iff.2 fun f member => ?_
        exact Option.eq_none_iff_forall_ne_some.2 fun d found =>
          none f member (isAlternative_iff.2 ⟨d, found⟩)
      rw [nothing, List.getLast?_nil, Option.getD_none]
  · rintro rfl
    cases ends : (fields.filterMap ofField?).getLast? with
    | none =>
      refine .absent fun f member alternative => ?_
      obtain ⟨d, found⟩ := isAlternative_iff.1 alternative
      have some := List.filterMap_eq_nil_iff.1 (List.getLast?_eq_none_iff.1 ends) f member
      rw [found] at some
      cases some
    | some d =>
      obtain ⟨f, last, found⟩ := getLast?_eq_some_iff.1 ends
      cases last.meets with
      | size n =>
        obtain rfl := Option.some.inj found
        rw [Option.getD_some, ofInt64_eq]
        split
        · next signed => exact .fixed last signed
        · next below => exact .negative last below
      | param name =>
        obtain rfl := Option.some.inj found
        exact .param last

theorem Dim.forall₂_describes_iff {contents : List (List Field)} {shape : List Dim} :
    List.Forall₂ Describes contents shape ↔ contents.map ofFields = shape := by
  have each : Describes = fun content d => ofFields content = d :=
    funext₂ fun _ _ => propext describes_iff
  rw [← List.forall₂_eq_eq_eq, List.forall₂_map_left_iff, each]

theorem ValueInfo.ofFields_eq_ok_iff {v : ValueInfo} :
    ofFields fields = .ok v ↔ Describes fields v := by
  unfold ofFields
  constructor
  · intro read
    split at read
    · cases read
    · next tensorType found =>
      simp only [bind_eq_ok_iff, elementType_eq_ok_iff, ElementType.ofCode?_eq_some_iff] at read
      obtain ⟨type, code, result⟩ := read
      obtain rfl := Except.ok.inj result
      exact ⟨rfl, tensorType, found, code, Dim.forall₂_describes_iff.2 rfl⟩
  · rintro ⟨name, tensorType, found, code, described⟩
    rw [tensorType?] at found
    have type : elementType 1 tensorType = .ok v.type :=
      elementType_eq_ok_iff.2 (ElementType.ofCode?_eq_some_iff.2 code)
    simp only [found, type, ok_bind, Dim.forall₂_describes_iff.1 described, ← name]

theorem ValueInfo.exists_ofFields_iff : (∃ v, ofFields fields = .ok v) ↔ Supported fields := by
  simp only [ofFields_eq_ok_iff]
  constructor
  · rintro ⟨v, -, tensorType, found, code, -⟩
    exact ⟨tensorType, found, v.type, code⟩
  · rintro ⟨tensorType, found, type, code⟩
    exact ⟨⟨_, type, _⟩, rfl, tensorType, found, code, Dim.forall₂_describes_iff.2 rfl⟩

theorem ValueInfo.mapM_ofFields_eq_ok_iff {contents : List (List Field)} {vs : List ValueInfo} :
    contents.mapM ofFields = .ok vs ↔ List.Forall₂ Describes contents vs := by
  simp only [mapM_eq_ok_iff, ofFields_eq_ok_iff]

/-! ### Tensors -/

/-- The storage of the elements of a type, raw bytes apart. -/
def ElementType.storage : ElementType → Storage
  | f32 => .float
  | f64 => .double
  | i64 => .int64
  | u32 | u64 => .uint64
  | string => .string
  | undefined | u8 | i8 | u16 | i16 | i32 | bool | f16 | bf16 => .int32

/-- A payload is what a tensor message holds in the storage of the payload. -/
def Payload.HeldIn (fields : List Field) : Payload → Prop
  | float values => values = (Content.fixed32s 4 fields).map Binary32.mk
  | double values => values = (Content.fixed64s 10 fields).map Binary64.mk
  | int32 values => values = (Content.varints 5 fields).map fun n => n.toUInt32.toInt32
  | int64 values => values = (Content.varints 7 fields).map UInt64.toInt64
  | uint64 values => values = Content.varints 11 fields
  | string values => values = Content.byteStrings 6 fields
  | raw bytes => Content.bytes? 9 fields = some bytes

/-- A tensor message describes a name, an element type, dims, and a payload: its raw bytes if it has any,
and what it holds in the storage of its element type otherwise. -/
structure Tensor.Describes (fields : List Field) (t : Tensor) : Prop where
  name : t.name = Content.text 8 fields
  type : int32 2 fields = t.type.code
  dims : t.dims = Content.varints 1 fields
  payload : t.payload.HeldIn fields
  storage : t.payload.storage =
    if (Content.bytes? 9 fields).isSome then .raw else t.type.storage

/-- A tensor message describes a tensor with an element type and without negative dims, and one that
passes the checks. -/
def Tensor.Supported (fields : List Field) : Prop :=
  ∃ t, Describes fields t ∧ t.type ≠ .undefined ∧ t.Fits ∧ t.IsChecked

theorem Payload.ofFields_eq_iff {type : ElementType} {payload : Payload} :
    ofFields type fields = payload ↔ payload.HeldIn fields ∧
      payload.storage = if (Content.bytes? 9 fields).isSome then .raw else type.storage := by
  unfold ofFields
  cases present : Content.bytes? 9 fields with
  | some bytes => cases payload <;> simp [HeldIn, Payload.storage, present]
  | none =>
    cases type <;> cases payload <;>
      simp [HeldIn, Payload.storage, ElementType.storage, present, eq_comm]

theorem Tensor.describes_iff {t : Tensor} :
    Describes fields t ↔ ∃ type, ElementType.ofCode? (int32 2 fields) = some type ∧
      t = ⟨Content.text 8 fields, type, Content.varints 1 fields,
        Payload.ofFields type fields⟩ := by
  simp only [ElementType.ofCode?_eq_some_iff]
  constructor
  · rintro ⟨name, code, dims, held, storage⟩
    refine ⟨t.type, code, ?_⟩
    rw [Payload.ofFields_eq_iff.2 ⟨held, storage⟩, ← name, ← dims]
  · rintro ⟨type, code, rfl⟩
    obtain ⟨held, storage⟩ := Payload.ofFields_eq_iff.1 (rfl : Payload.ofFields type fields = _)
    exact ⟨rfl, code, rfl, held, storage⟩

theorem Tensor.Describes.unique {s t : Tensor} (described : Describes fields s)
    (described' : Describes fields t) : s = t := by
  obtain ⟨type, code, rfl⟩ := describes_iff.1 described
  obtain ⟨type', code', rfl⟩ := describes_iff.1 described'
  rw [Option.some.inj (code.symm.trans code')]

theorem Tensor.ofFields_eq_ok_iff {t : Tensor} :
    ofFields fields = .ok t ↔ Supported fields ∧ Describes fields t := by
  have read : ofFields fields = .ok t ↔ Describes fields t ∧ t.Fits ∧ t.IsChecked := by
    simp only [ofFields, bind_eq_ok_iff, elementType_eq_ok_iff, readDims_eq_ok_iff,
      mapError_eq_ok_iff, describes_iff]
    constructor
    · rintro ⟨type, code, _, ⟨fits, rfl⟩, built⟩
      obtain ⟨-, rfl⟩ := new_eq_ok_iff.1 built
      exact ⟨⟨type, code, rfl⟩, fits, built⟩
    · rintro ⟨⟨type, code, rfl⟩, fits, checked⟩
      exact ⟨type, code, _, ⟨fits, rfl⟩, checked⟩
  rw [read]
  constructor
  · rintro ⟨described, fits, checked⟩
    exact ⟨⟨t, described, (checked.wellFormed fits).typed, fits, checked⟩, described⟩
  · rintro ⟨⟨s, described', -, fits, checked⟩, described⟩
    obtain rfl := described'.unique described
    exact ⟨described, fits, checked⟩

theorem Tensor.exists_ofFields_iff : (∃ t, ofFields fields = .ok t) ↔ Supported fields := by
  simp only [ofFields_eq_ok_iff, exists_and_left]
  refine ⟨And.left, fun supported => ⟨supported, ?_⟩⟩
  obtain ⟨t, described, -⟩ := supported
  exact ⟨t, described⟩

theorem Tensor.mapM_ofFields_eq_ok_iff {contents : List (List Field)} {ts : List Tensor} :
    contents.mapM ofFields = .ok ts ↔
      (∀ content ∈ contents, Supported content) ∧ List.Forall₂ Describes contents ts := by
  simp only [mapM_eq_ok_iff, ofFields_eq_ok_iff, List.forall₂_and_left]

/-! ### Attributes -/

/-- Bytes that spell a text. -/
def IsText (bytes : List UInt8) : Prop := ∃ text, bytes = utf8 text

/-- An attribute message has what a kind of attribute needs; what is in a body is left open. -/
def AttributeKind.CarriedBy (fields : List Field) : AttributeKind → Prop
  | float | int | floats | ints => True
  | string => IsText ((Content.bytes? 4 fields).getD [])
  | strings => ∀ bytes ∈ Content.byteStrings 9 fields, IsText bytes
  | tensor => ∃ content, Content.message? 5 fields = some content ∧ Tensor.Supported content
  | graph => ∃ content, Content.message? 6 fields = some content

/-- An attribute message has one of the kinds, and what this kind needs. -/
def Attribute.Complies (fields : List Field) : Prop :=
  ∃ kind : AttributeKind, int32 20 fields = kind.code ∧ kind.CarriedBy fields

/-- An attribute message is of a body with a message. -/
def Attribute.HoldsBody (fields content : List Field) : Prop :=
  int32 20 fields = AttributeKind.graph.code ∧ Content.message? 6 fields = some content

/-- An attribute message describes a value of its kind. Which messages describe which bodies is
given. -/
def Attribute.DescribesWith (ofBody : List Field → Graph → Prop) (fields : List Field)
    (value : Attribute) : Prop :=
  int32 20 fields = value.kind.code ∧
    match value with
    | .float x => x = ⟨(Content.fixed32? 2 fields).getD 0⟩
    | .int n => n = ((Content.varint? 3 fields).getD 0).toInt64
    | .string text => (Content.bytes? 4 fields).getD [] = utf8 text
    | .floats xs => xs = (Content.fixed32s 7 fields).map Binary32.mk
    | .ints ns => ns = (Content.varints 8 fields).map UInt64.toInt64
    | .strings texts => Content.byteStrings 9 fields = texts.map utf8
    | .tensor t => ∃ content, Content.message? 5 fields = some content ∧ Tensor.Describes content t
    | .graph body => ∃ content, Content.message? 6 fields = some content ∧ ofBody content body

theorem Format.decodeText_eq_ok_iff {bytes : List UInt8} {text : String} :
    decodeText bytes = .ok text ↔ bytes = utf8 text := by
  rw [← ofUtf8?_eq_some_iff, decodeText]
  cases ofUtf8? bytes <;> simp [refuse]

theorem Format.mapM_decodeText_eq_ok_iff {strings : List (List UInt8)} {texts : List String} :
    strings.mapM decodeText = .ok texts ↔ strings = texts.map utf8 := by
  rw [mapM_eq_ok_iff, ← List.forall₂_eq_eq_eq, List.forall₂_map_right_iff]
  simp only [decodeText_eq_ok_iff]

section

variable {body : List Field → Decoded Graph}

theorem Attribute.ofFieldsWith_eq_ok_iff {name : String} {value : Attribute} :
    ofFieldsWith body name fields = .ok value ↔
      Complies fields ∧ DescribesWith (fun content b => body content = .ok b) fields value := by
  unfold ofFieldsWith Complies DescribesWith
  simp only [← AttributeKind.ofCode?_eq_some_iff]
  cases known : AttributeKind.ofCode? (int32 20 fields) with
  | none => simp [refuse]
  | some kind =>
    simp only [Option.some.injEq, exists_eq_left']
    -- Only the value of the same kind is described.
    cases kind with
    | float | int | floats | ints =>
      cases value <;> simp [Attribute.kind, AttributeKind.CarriedBy, eq_comm]
    | string =>
      have carried {text : String} {bytes : List UInt8} (same : bytes = utf8 text) : IsText bytes :=
        ⟨text, same⟩
      cases value <;>
        simp [Attribute.kind, AttributeKind.CarriedBy, bind_eq_ok_iff, decodeText_eq_ok_iff]
      exact carried
    | strings =>
      have carried {texts : List String} {strings : List (List UInt8)}
          (same : strings = texts.map utf8) : ∀ bytes ∈ strings, IsText bytes := by
        rw [same, List.forall_mem_map]
        exact fun text _ => ⟨text, rfl⟩
      cases value <;>
        simp [Attribute.kind, AttributeKind.CarriedBy, bind_eq_ok_iff, mapM_decodeText_eq_ok_iff]
      exact carried
    | tensor =>
      cases found : Content.message? 5 fields <;> cases value <;>
        simp [Attribute.kind, AttributeKind.CarriedBy, refuse, found, bind_eq_ok_iff,
          Tensor.ofFields_eq_ok_iff]
    | graph =>
      cases found : Content.message? 6 fields <;> cases value <;>
        simp [Attribute.kind, AttributeKind.CarriedBy, refuse, found, bind_eq_ok_iff]

theorem Attribute.exists_ofFieldsWith_iff {name : String} :
    (∃ value, ofFieldsWith body name fields = .ok value) ↔
      Complies fields ∧ ∀ content, HoldsBody fields content → ∃ b, body content = .ok b := by
  have given {α β : Type} {x : Decoded α} {f : α → β} :
      (∃ b, (x >>= fun a => Except.ok (f a)) = .ok b) ↔ ∃ a, x = .ok a := by
    cases x <;> simp
  unfold ofFieldsWith Complies HoldsBody
  simp only [← AttributeKind.ofCode?_eq_some_iff]
  cases known : AttributeKind.ofCode? (int32 20 fields) with
  | none => simp [refuse]
  | some kind =>
    simp only [Option.some.injEq, exists_eq_left']
    cases kind with
    | float | int | floats | ints => simp [AttributeKind.CarriedBy]
    | string => simp [AttributeKind.CarriedBy, given, decodeText_eq_ok_iff, IsText]
    | strings =>
      simp [AttributeKind.CarriedBy, given, exists_mapM_eq_ok_iff, decodeText_eq_ok_iff, IsText]
    | tensor =>
      cases found : Content.message? 5 fields <;>
        simp [AttributeKind.CarriedBy, refuse, found, given, Tensor.exists_ofFields_iff]
    | graph =>
      cases found : Content.message? 6 fields <;>
        simp [AttributeKind.CarriedBy, refuse, found, given]

theorem Attribute.entryWith_eq_ok_iff {entry : String × Attribute} :
    entryWith body fields = .ok entry ↔
      Content.text 1 fields = entry.1 ∧
        ofFieldsWith body (Content.text 1 fields) fields = .ok entry.2 := by
  obtain ⟨name, value⟩ := entry
  simp [entryWith, bind_eq_ok_iff, and_comm, Prod.ext_iff]

theorem Attribute.exists_entryWith_iff :
    (∃ entry, entryWith body fields = .ok entry) ↔
      Complies fields ∧ ∀ content, HoldsBody fields content → ∃ b, body content = .ok b := by
  have value : (∃ entry, entryWith body fields = .ok entry) ↔
      ∃ value, ofFieldsWith body (Content.text 1 fields) fields = .ok value := by
    simp [entryWith, bind_eq_ok_iff]
  rw [value, exists_ofFieldsWith_iff]

end

/-! ### Nodes and graphs -/

/-- A node message describes a node with the attributes in the order of their names, of those with
one name the last. -/
structure Node.DescribesWith (ofBody : List Field → Graph → Prop) (fields : List Field)
    (node : Node) : Prop where
  name : node.name = Content.text 3 fields
  opType : node.opType = Content.text 4 fields
  inputs : node.inputs = Content.texts 1 fields
  outputs : node.outputs = Content.texts 2 fields
  ordered : Table.Ordered node.attributes
  attributes : ∀ entry ∈ node.attributes, ∃ content,
    LastOf (Content.text 1 · = entry.1) (Content.messages 5 fields) content ∧
      Attribute.DescribesWith ofBody content entry.2
  names : ∀ content ∈ Content.messages 5 fields,
    ∃ value, (Content.text 1 content, value) ∈ node.attributes

/-- A graph message describes its nodes, inputs, outputs and initializers one after another. -/
structure Graph.DescribesWith (ofBody : List Field → Graph → Prop) (fields : List Field)
    (g : Graph) : Prop where
  name : g.name = Content.text 2 fields
  nodes : List.Forall₂ (Node.DescribesWith ofBody) (Content.messages 1 fields) g.nodes
  inputs : List.Forall₂ ValueInfo.Describes (Content.messages 11 fields) g.inputs
  outputs : List.Forall₂ ValueInfo.Describes (Content.messages 12 fields) g.outputs
  initializers : List.Forall₂ Tensor.Describes (Content.messages 5 fields) g.initializers

section

variable {body : List Field → Decoded Graph}

theorem Node.ofFieldsWith_eq_ok_iff {node : Node} :
    ofFieldsWith body fields = .ok node ↔ (∃ n, ofFieldsWith body fields = .ok n) ∧
      DescribesWith (fun content b => body content = .ok b) fields node := by
  have key {content : List Field} {entry other : String × Attribute}
      (read : Attribute.entryWith body content = .ok entry) :
      Content.text 1 content = other.1 ↔ entry.1 = other.1 := by
    rw [(Attribute.entryWith_eq_ok_iff.1 read).1]
  constructor
  · intro read
    refine ⟨⟨node, read⟩, ?_⟩
    simp only [ofFieldsWith, bind_eq_ok_iff, mapM_eq_ok_iff] at read
    obtain ⟨entries, pairs, result⟩ := read
    obtain rfl := Except.ok.inj result
    obtain ⟨ordered, kept, all⟩ := Table.ofList_eq_iff.1 (rfl : Table.ofList entries = _)
    refine ⟨rfl, rfl, rfl, rfl, ordered, fun entry member => ?_, fun content member => ?_⟩
    · obtain ⟨content, last, found⟩ := (kept entry member).of_forall₂ pairs fun _ _ => key
      obtain ⟨-, value⟩ := Attribute.entryWith_eq_ok_iff.1 found
      exact ⟨content, last, (Attribute.ofFieldsWith_eq_ok_iff.1 value).2⟩
    · obtain ⟨entry, among, found⟩ := exists_mem_of_forall₂ pairs.flip member
      rw [(Attribute.entryWith_eq_ok_iff.1 found).1]
      exact all entry among
  · rintro ⟨⟨n, read⟩, described⟩
    simp only [ofFieldsWith, bind_eq_ok_iff, mapM_eq_ok_iff] at read ⊢
    obtain ⟨entries, pairs, -⟩ := read
    have table : Table.ofList entries = node.attributes := by
      refine Table.ofList_eq_iff.2 ⟨described.ordered, fun entry member => ?_, fun entry among => ?_⟩
      · obtain ⟨content, last, value⟩ := described.attributes entry member
        obtain ⟨other, last', found⟩ :=
          last.of_forall₂ (p := (·.1 = entry.1)) pairs.flip fun _ _ read => (key read).symm
        obtain ⟨-, read⟩ := Attribute.entryWith_eq_ok_iff.1 found
        obtain ⟨complies, -⟩ := Attribute.ofFieldsWith_eq_ok_iff.1 read
        have same : other.2 = entry.2 :=
          Except.ok.inj (read.symm.trans (Attribute.ofFieldsWith_eq_ok_iff.2 ⟨complies, value⟩))
        obtain rfl : other = entry := Prod.ext last'.meets same
        exact last'
      · obtain ⟨content, member, found⟩ := exists_mem_of_forall₂ pairs among
        rw [← (Attribute.entryWith_eq_ok_iff.1 found).1]
        exact described.names content member
    refine ⟨entries, pairs, congrArg Except.ok ?_⟩
    rw [table, ← described.name, ← described.opType, ← described.inputs, ← described.outputs]
    cases node
    rfl

theorem Node.exists_ofFieldsWith_iff :
    (∃ node, ofFieldsWith body fields = .ok node) ↔
      ∀ entry ∈ Content.messages 5 fields, Attribute.Complies entry ∧
        ∀ content, Attribute.HoldsBody entry content → ∃ b, body content = .ok b := by
  have all : (∃ node, ofFieldsWith body fields = .ok node) ↔
      ∃ entries, (Content.messages 5 fields).mapM (Attribute.entryWith body) = .ok entries := by
    simp [ofFieldsWith, bind_eq_ok_iff]
  simp only [all, exists_mapM_eq_ok_iff, Attribute.exists_entryWith_iff]

theorem Node.mapM_ofFieldsWith_eq_ok_iff {contents : List (List Field)} {nodes : List Node} :
    contents.mapM (ofFieldsWith body) = .ok nodes ↔
      (∃ others, contents.mapM (ofFieldsWith body) = .ok others) ∧
        List.Forall₂ (DescribesWith fun content b => body content = .ok b) contents nodes :=
  mapM_eq_ok_iff_forall₂ fun _ _ => ofFieldsWith_eq_ok_iff

theorem Graph.exists_ofFieldsWith_iff :
    (∃ g, ofFieldsWith body fields = .ok g) ↔
      (∀ node ∈ Content.messages 1 fields, ∃ n, Node.ofFieldsWith body node = .ok n) ∧
        (∀ v ∈ Content.messages 11 fields, ValueInfo.Supported v) ∧
        (∀ v ∈ Content.messages 12 fields, ValueInfo.Supported v) ∧
        ∀ t ∈ Content.messages 5 fields, Tensor.Supported t := by
  simp only [← ValueInfo.exists_ofFields_iff, ← Tensor.exists_ofFields_iff,
    ← exists_mapM_eq_ok_iff]
  simp [ofFieldsWith, bind_eq_ok_iff]

theorem Graph.ofFieldsWith_eq_ok_iff {g : Graph} :
    ofFieldsWith body fields = .ok g ↔ (∃ h, ofFieldsWith body fields = .ok h) ∧
      DescribesWith (fun content b => body content = .ok b) fields g := by
  constructor
  · intro read
    refine ⟨⟨g, read⟩, ?_⟩
    simp only [ofFieldsWith, bind_eq_ok_iff] at read
    obtain ⟨nodes, readNodes, inputs, readInputs, outputs, readOutputs, tensors, readTensors,
      result⟩ := read
    obtain rfl := Except.ok.inj result
    exact ⟨rfl, (Node.mapM_ofFieldsWith_eq_ok_iff.1 readNodes).2,
      ValueInfo.mapM_ofFields_eq_ok_iff.1 readInputs,
      ValueInfo.mapM_ofFields_eq_ok_iff.1 readOutputs,
      (Tensor.mapM_ofFields_eq_ok_iff.1 readTensors).2⟩
  · rintro ⟨⟨h, read⟩, described⟩
    simp only [ofFieldsWith, bind_eq_ok_iff] at read
    obtain ⟨nodes, readNodes, -, -, -, -, tensors, readTensors, -⟩ := read
    have supported := (Tensor.mapM_ofFields_eq_ok_iff.1 readTensors).1
    rw [ofFieldsWith,
      Node.mapM_ofFieldsWith_eq_ok_iff.2 ⟨⟨nodes, readNodes⟩, described.nodes⟩,
      ValueInfo.mapM_ofFields_eq_ok_iff.2 described.inputs,
      ValueInfo.mapM_ofFields_eq_ok_iff.2 described.outputs,
      Tensor.mapM_ofFields_eq_ok_iff.2 ⟨supported, described.initializers⟩, ← described.name]
    cases g
    rfl

end

/-! ### Bodies -/

/-- A graph message has an attribute of a body with a message. -/
def Graph.HasBody (fields content : List Field) : Prop :=
  ∃ node ∈ Content.messages 1 fields, ∃ entry ∈ Content.messages 5 node,
    Attribute.HoldsBody entry content

/-- The parts of a graph message are supported, and so are the messages of its bodies. -/
inductive Graph.Supported : List Field → Prop
  | of {fields : List Field}
      (attributes : ∀ node ∈ Content.messages 1 fields, ∀ entry ∈ Content.messages 5 node,
        Attribute.Complies entry)
      (bodies : ∀ content, HasBody fields content → Supported content)
      (inputs : ∀ v ∈ Content.messages 11 fields, ValueInfo.Supported v)
      (outputs : ∀ v ∈ Content.messages 12 fields, ValueInfo.Supported v)
      (initializers : ∀ t ∈ Content.messages 5 fields, Tensor.Supported t) : Supported fields

/-- A graph message describes a graph whose bodies are described by their messages. -/
inductive Graph.Describes : List Field → Graph → Prop
  | of {fields : List Field} {g : Graph} {ofBody : List Field → Graph → Prop}
      (parts : DescribesWith ofBody fields g)
      (bodies : ∀ content b, ofBody content b → Describes content b) : Describes fields g

theorem Graph.HasBody.maxHeight_lt {content : List Field} (held : HasBody fields content) :
    Field.maxHeight content < Field.maxHeight fields := by
  obtain ⟨node, among, entry, member, -, found⟩ := held
  have := Content.maxHeight_lt_of_mem_messages among
  have := Content.maxHeight_lt_of_mem_messages member
  have := Content.maxHeight_lt_of_message? found
  omega

/-- What holds of a graph message if it holds of those of its bodies holds of all of them. -/
theorem Graph.inductionOnMessages {motive : List Field → Prop}
    (step : ∀ fields, (∀ content, HasBody fields content → motive content) → motive fields)
    (fields : List Field) : motive fields :=
  step fields fun content held =>
    have := held.maxHeight_lt
    inductionOnMessages step content
termination_by Field.maxHeight fields

theorem Graph.exists_ofFields_iff_parts :
    (∃ g, ofFields fields = .ok g) ↔
      (∀ node ∈ Content.messages 1 fields, ∀ entry ∈ Content.messages 5 node,
        Attribute.Complies entry) ∧
      (∀ content, HasBody fields content → ∃ b, ofFields content = .ok b) ∧
      (∀ v ∈ Content.messages 11 fields, ValueInfo.Supported v) ∧
      (∀ v ∈ Content.messages 12 fields, ValueInfo.Supported v) ∧
      ∀ t ∈ Content.messages 5 fields, Tensor.Supported t := by
  rw [ofFields_eq, exists_ofFieldsWith_iff]
  simp only [Node.exists_ofFieldsWith_iff]
  constructor
  · rintro ⟨nodes, values⟩
    refine ⟨fun node among entry member => (nodes node among entry member).1, ?_, values⟩
    rintro content ⟨node, among, entry, member, held⟩
    exact (nodes node among entry member).2 content held
  · rintro ⟨attributes, bodies, values⟩
    refine ⟨fun node among entry member => ⟨attributes node among entry member, ?_⟩, values⟩
    exact fun content held => bodies content ⟨node, among, entry, member, held⟩

/-- A graph message is read exactly if it is supported. -/
theorem Graph.exists_ofFields_iff : (∃ g, ofFields fields = .ok g) ↔ Supported fields := by
  induction fields using Graph.inductionOnMessages with
  | step fields ih =>
    rw [exists_ofFields_iff_parts]
    constructor
    · rintro ⟨attributes, bodies, inputs, outputs, initializers⟩
      exact .of attributes (fun content held => (ih content held).1 (bodies content held)) inputs
        outputs initializers
    · rintro ⟨attributes, bodies, inputs, outputs, initializers⟩
      exact ⟨attributes, fun content held => (ih content held).2 (bodies content held), inputs,
        outputs, initializers⟩

section

variable {r s : List Field → Graph → Prop}

theorem Attribute.DescribesWith.mono {value : Attribute}
    (stronger : ∀ content b, HoldsBody fields content → r content b → s content b)
    (described : DescribesWith r fields value) : DescribesWith s fields value := by
  obtain ⟨kind, content⟩ := described
  refine ⟨kind, ?_⟩
  cases value with
  | graph b =>
    obtain ⟨content, found, described⟩ := content
    exact ⟨content, found, stronger content b ⟨kind, found⟩ described⟩
  | float | int | string | floats | ints | strings | tensor => exact content

theorem Node.DescribesWith.mono {node : Node}
    (stronger : ∀ entry ∈ Content.messages 5 fields, ∀ content b,
      Attribute.HoldsBody entry content → r content b → s content b)
    (described : DescribesWith r fields node) : DescribesWith s fields node := by
  refine { described with attributes := fun entry member => ?_ }
  obtain ⟨content, last, value⟩ := described.attributes entry member
  exact ⟨content, last, value.mono (stronger content last.mem)⟩

theorem Graph.DescribesWith.mono {g : Graph}
    (stronger : ∀ content b, HasBody fields content → r content b → s content b)
    (described : DescribesWith r fields g) : DescribesWith s fields g := by
  have each : ∀ node ∈ Content.messages 1 fields, ∀ entry ∈ Content.messages 5 node,
      ∀ content b, Attribute.HoldsBody entry content → r content b → s content b :=
    fun node among entry member content b held =>
      stronger content b ⟨node, among, entry, member, held⟩
  have nodes := (List.forall₂_and_left _ _).2 ⟨each, described.nodes⟩
  exact { described with nodes := nodes.imp fun _ _ ⟨stronger, node⟩ => node.mono stronger }

end

/-- A supported graph message is read as the graph that it describes. -/
theorem Graph.ofFields_eq_ok_iff {g : Graph} :
    ofFields fields = .ok g ↔ Supported fields ∧ Describes fields g := by
  induction fields using Graph.inductionOnMessages generalizing g with
  | step fields ih =>
    rw [ofFields_eq, ofFieldsWith_eq_ok_iff, ← ofFields_eq, exists_ofFields_iff]
    refine and_congr_right fun supported => ?_
    constructor
    · intro described
      have parts : DescribesWith Describes fields g :=
        described.mono fun content b held read => ((ih content held).1 read).2
      exact .of parts fun _ _ => id
    · rintro ⟨parts, bodies⟩
      obtain ⟨-, inner, -⟩ := supported
      exact parts.mono fun content b held described =>
        (ih content held).2 ⟨inner content held, bodies content b described⟩

end OnnxCorpus
