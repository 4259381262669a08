import OnnxCorpus.Format.Decode
import OnnxCorpus.Proofs.Format.Layout

/-!
# What written values and tensors read as

The fields of a value are read as the value again, except that a fixed size from `2 ^ 63` on comes
back as an unknown one: it is read as a negative number (`ValueInfo.ofFields_toFields`). The fields
of a tensor are read as the tensor, or refused for a dim from `2 ^ 63` on
(`Tensor.ofFields_toFields_iff`).
-/

namespace OnnxCorpus

open Wire Format Fallible

/-! ### Numbers -/

/-- A size below `2 ^ 63`, which is the same number when it is read as a signed one. -/
def IsSigned (size : UInt64) : Prop := size < 0x8000000000000000

instance (size : UInt64) : Decidable (IsSigned size) :=
  inferInstanceAs (Decidable (size < 0x8000000000000000))

theorem toInt64_neg_iff {size : UInt64} : size.toInt64 < 0 ↔ ¬IsSigned size := by
  rw [IsSigned, Int64.lt_iff_toInt_lt, UInt64.lt_iff_toNat_lt]
  show size.toBitVec.toInt < _ ↔ ¬size.toNat < _
  rw [BitVec.toInt_eq_toNat_cond]
  have := size.toNat_lt
  simp
  omega

@[simp] theorem toInt32_toUInt64_toInt64 (n : Int32) : n.toInt64.toUInt64.toUInt32.toInt32 = n := by
  have narrow (x : Int64) : x.toUInt64.toUInt32.toInt32 = x.toInt32 := by
    apply Int32.toBitVec_inj.1
    simp [BitVec.signExtend_eq_setWidth_of_le]
  rw [narrow, Int32.toInt32_toInt64]

namespace Format

theorem int32_of_varints {number : Nat} {fields : List Field} {n : Int32}
    (only : Content.varints number fields = [n.toInt64.toUInt64]) : int32 number fields = n := by
  simp [int32, Content.varint?, only]

theorem elementType_of_varints {number : Nat} {fields : List Field} {type : ElementType}
    (only : Content.varints number fields = [type.code.toInt64.toUInt64]) :
    elementType number fields = .ok type := by
  simp [elementType, int32_of_varints only]

@[simp] theorem decodeText_utf8 (text : String) : decodeText (utf8 text) = .ok text := by
  simp [decodeText]

/-! ### Packed fields -/

variable (n number : Nat) (values : List Scalar)

@[simp] theorem scalars_packedField :
    Content.scalars n (packedField number values) = if number = n then values else [] := by
  cases values <;> simp [packedField, Field.scalarsOf]

@[simp] theorem byteStrings_packedField :
    Content.byteStrings n (packedField number values) = [] := by
  cases values <;> simp [packedField, Field.bytesOf]

@[simp] theorem texts_packedField : Content.texts n (packedField number values) = [] := by
  cases values <;> simp [packedField, Field.textOf]

theorem flatMap_nothing {α β : Type} (xs : List α) :
    (xs.flatMap fun _ => ([] : List β)) = [] := by
  simp

/-! ### Fields of lists -/

section

variable {α : Type} (k : Nat) (xs : List α)

@[simp] theorem messages_map_message (h : α → List Field) :
    Content.messages n (xs.map fun x => .message k (h x)) = if k = n then xs.map h else [] := by
  simp only [Content.collect_map]
  split <;> simp [Field.messageOf, *]

@[simp] theorem texts_map_message (h : α → List Field) :
    Content.texts n (xs.map fun x => .message k (h x)) = [] := by
  simp [Content.collect_map, Field.textOf]

@[simp] theorem messages_map_text (texts : List String) :
    Content.messages n (texts.map (.text k)) = [] := by
  simp [Content.collect_map, Field.messageOf]

@[simp] theorem texts_map_text (texts : List String) :
    Content.texts n (texts.map (.text k)) = if k = n then texts else [] := by
  simp only [Content.collect_map]
  split <;> simp [Field.textOf, *]

end

end Format

/-! ### Values -/

namespace Dim

/-- A size that a signed number can be, or no number. -/
def Fits : Dim → Prop
  | fixed size => IsSigned size
  | param _ | unknown => True

instance : (d : Dim) → Decidable d.Fits
  | fixed size => inferInstanceAs (Decidable (IsSigned size))
  | param _ | unknown => inferInstanceAs (Decidable True)

/-- A fixed size that a signed number cannot be is read as an unknown one. -/
def readBack : Dim → Dim
  | fixed size => if IsSigned size then fixed size else unknown
  | d => d

theorem readBack_eq_self_iff {d : Dim} : d.readBack = d ↔ d.Fits := by
  cases d <;> simp [readBack, Fits]

theorem ofFields_toFields (d : Dim) : ofFields d.toFields = d.readBack := by
  cases d with
  | fixed size =>
    by_cases fits : IsSigned size <;>
      simp [ofFields, toFields, ofField?, ofInt64, readBack, toInt64_neg_iff, fits]
  | param name => rfl
  | unknown => rfl

end Dim

namespace ValueInfo

/-- A value whose shape is read back. -/
def readBack (v : ValueInfo) : ValueInfo := { v with shape := v.shape.map Dim.readBack }

theorem ofFields_toFields (v : ValueInfo) : ofFields v.toFields = .ok v.readBack := by
  have type : Content.varints 1 [intField 1 v.type.code.toInt64,
      .message 2 (v.shape.map fun d => .message 1 d.toFields)] = [v.type.code.toInt64.toUInt64] := by
    simp [Content.varints, Field.scalarsOf, intField, Scalar.varint?]
  have inner : (Content.message? 2 v.toFields).bind (Content.message? 1) =
      some [intField 1 v.type.code.toInt64,
        .message 2 (v.shape.map fun d => .message 1 d.toFields)] := by
    simp [ValueInfo.toFields, Content.message?, Field.messageOf]
  have name : Content.text 1 v.toFields = v.name := by
    simp [ValueInfo.toFields, Content.text, Content.text?, Field.textOf]
  rw [ofFields, inner]
  simp only [elementType_of_varints type, ok_bind, name]
  simp [Content.message?, Field.messageOf, intField, Dim.ofFields_toFields, readBack]

theorem mapM_ofFields_toFields (vs : List ValueInfo) :
    (vs.map toFields).mapM ofFields = .ok (vs.map readBack) := by
  rw [List.mapM_map]
  exact mapM_eq_ok_iff.2 (List.forall₂_map_right_iff.2
    (List.forall₂_same.2 fun v _ => v.ofFields_toFields))

end ValueInfo

/-! ### Tensors -/

namespace Payload

theorem scalars_fields (payload : Payload) (n : Nat) :
    Content.scalars n payload.fieldsBeforeName ++ Content.scalars n payload.fieldsAfterName =
      match payload with
      | float values => if 4 = n then values.map (fun x => .fixed32 x.bits) else []
      | double values => if 10 = n then values.map (fun x => .fixed64 x.bits) else []
      | int32 values => if 5 = n then values.map (fun x => .varint x.toInt64.toUInt64) else []
      | int64 values => if 7 = n then values.map (fun x => .varint x.toUInt64) else []
      | uint64 values => if 11 = n then values.map .varint else []
      | string _ | raw _ => [] := by
  cases payload <;>
    simp [fieldsBeforeName, fieldsAfterName, Content.scalars_map, Field.scalarsOf, flatMap_nothing]

theorem byteStrings_fields (payload : Payload) (n : Nat) :
    Content.byteStrings n payload.fieldsBeforeName ++
        Content.byteStrings n payload.fieldsAfterName =
      match payload with
      | string values => if 6 = n then values else []
      | raw bytes => if 9 = n then [bytes] else []
      | _ => [] := by
  cases payload <;>
    simp [fieldsBeforeName, fieldsAfterName, Content.collect_map, Field.bytesOf]
  all_goals split <;> simp

/-- The bytes of raw storage. -/
def raw? : Payload → Option (List UInt8)
  | raw bytes => some bytes
  | float _ | double _ | int32 _ | int64 _ | uint64 _ | string _ => none

theorem texts_fields (payload : Payload) (n : Nat) :
    Content.texts n payload.fieldsBeforeName = [] ∧
      Content.texts n payload.fieldsAfterName = [] := by
  cases payload <;> simp [fieldsBeforeName, fieldsAfterName, Content.collect_map, Field.textOf]

end Payload

namespace Tensor

theorem scalars_toFields (t : Tensor) (n : Nat) :
    Content.scalars n t.toFields =
      (if 1 = n then t.dims.map .varint else []) ++
        (if 2 = n then [.varint t.type.code.toInt64.toUInt64] else []) ++
        (Content.scalars n t.payload.fieldsBeforeName ++
          Content.scalars n t.payload.fieldsAfterName) := by
  have dims : Content.scalars n (t.dims.map fun d => .scalar 1 (.varint d)) =
      if 1 = n then t.dims.map .varint else [] := by
    rw [Content.scalars_map]
    split <;> simp [Field.scalarsOf, ← List.map_eq_flatMap, *]
  simp [toFields, dims, intField, Field.scalarsOf]

theorem byteStrings_toFields (t : Tensor) (n : Nat) :
    Content.byteStrings n t.toFields =
      Content.byteStrings n t.payload.fieldsBeforeName ++
        Content.byteStrings n t.payload.fieldsAfterName := by
  simp [toFields, Content.collect_map, Field.bytesOf, intField]

theorem texts_toFields (t : Tensor) (n : Nat) :
    Content.texts n t.toFields = if 8 = n then [t.name] else [] := by
  simp [toFields, Content.collect_map, Field.textOf, intField, Payload.texts_fields]
  split <;> simp

/-- Dims that signed numbers can be. -/
def Fits (t : Tensor) : Prop := ∀ d ∈ t.dims, IsSigned d

instance (t : Tensor) : Decidable t.Fits := List.decidableBAll IsSigned t.dims

/-- A tensor that passes the checks of `Tensor.new`. -/
def IsChecked (t : Tensor) : Prop := Tensor.new t.name t.type t.dims t.payload = .ok t

instance (t : Tensor) : Decidable t.IsChecked :=
  inferInstanceAs (Decidable (Tensor.new t.name t.type t.dims t.payload = .ok t))

theorem IsChecked.accepts {t : Tensor} (checked : t.IsChecked) :
    t.payload.storage.accepts t.type := by
  refine Decidable.byContradiction fun refused => ?_
  simp [IsChecked, Tensor.new, refused] at checked

theorem payload_ofFields_toFields {t : Tensor} (held : t.payload.storage.accepts t.type) :
    Payload.ofFields t.type t.toFields = t.payload := by
  have bytes : Content.bytes? 9 t.toFields = t.payload.raw? := by
    rw [Content.bytes?, byteStrings_toFields, Payload.byteStrings_fields]
    cases t.payload <;> rfl
  have scalars (n) := scalars_toFields t n
  simp only [Payload.scalars_fields] at scalars
  unfold Payload.ofFields
  rw [bytes]
  -- The type alone says which storage is read, so the types that a storage refuses are left out.
  obtain ⟨name, type, dims, payload⟩ := t
  cases payload with
  | raw bytes => rfl
  | string values =>
    cases type <;> simp [Payload.storage, Storage.accepts] at held
    simp [Payload.raw?, byteStrings_toFields, Payload.byteStrings_fields]
  | float values | double values | int64 values =>
    cases type <;> simp [Payload.storage, Storage.accepts] at held
    simp [Payload.raw?, Content.fixed32s, Content.fixed64s, Content.varints, scalars,
      Function.comp_def, List.filterMap_map, Scalar.fixed32?, Scalar.fixed64?, Scalar.varint?]
  | int32 values | uint64 values =>
    cases type <;> simp [Payload.storage, Storage.accepts] at held <;>
      simp [Payload.raw?, Content.varints, scalars, Function.comp_def, List.filterMap_map,
        Scalar.varint?]

theorem readDims_eq_ok_iff {name : String} {dims read : List UInt64} :
    readDims name dims = .ok read ↔ (∀ d ∈ dims, IsSigned d) ∧ read = dims := by
  induction dims generalizing read with
  | nil => simp [readDims, eq_comm]
  | cons d rest ih =>
    rw [readDims]
    split
    · next negative => simp [refuse, toInt64_neg_iff.1 negative]
    · next positive =>
      have signed : IsSigned d := Decidable.not_not.1 (mt toInt64_neg_iff.2 positive)
      simp only [bind_eq_ok_iff, ih, signed, List.forall_mem_cons, true_and, Except.ok.injEq]
      constructor
      · rintro ⟨_, ⟨fits, rfl⟩, rfl⟩
        exact ⟨fits, rfl⟩
      · rintro ⟨fits, rfl⟩
        exact ⟨rest, ⟨fits, rfl⟩, rfl⟩

theorem text_toFields (t : Tensor) : Content.text 8 t.toFields = t.name := by
  simp [Content.text, Content.text?, texts_toFields]

theorem elementType_toFields (t : Tensor) : elementType 2 t.toFields = .ok t.type := by
  apply elementType_of_varints
  rw [Content.varints, scalars_toFields, Payload.scalars_fields]
  cases t.payload <;> rfl

theorem dims_toFields (t : Tensor) : Content.varints 1 t.toFields = t.dims := by
  rw [Content.varints, scalars_toFields, Payload.scalars_fields]
  cases t.payload <;> simp [List.filterMap_map, Function.comp_def, Scalar.varint?]

/-- The fields of a tensor are read as the tensor, unless one of its dims is too large. -/
theorem ofFields_toFields_iff {t read : Tensor} (checked : t.IsChecked) :
    ofFields t.toFields = .ok read ↔ t.Fits ∧ read = t := by
  rw [ofFields]
  simp only [text_toFields, elementType_toFields, ok_bind, dims_toFields, bind_eq_ok_iff,
    readDims_eq_ok_iff, payload_ofFields_toFields checked.accepts]
  constructor
  · rintro ⟨_, ⟨fits, rfl⟩, built⟩
    rw [checked] at built
    exact ⟨fits, (Except.ok.inj built).symm⟩
  · rintro ⟨fits, rfl⟩
    refine ⟨read.dims, ⟨fits, rfl⟩, ?_⟩
    rw [checked]
    rfl

theorem mapM_ofFields_toFields_iff {ts read : List Tensor} (checked : ∀ t ∈ ts, t.IsChecked) :
    (ts.map toFields).mapM ofFields = .ok read ↔ (∀ t ∈ ts, t.Fits) ∧ read = ts := by
  have each : ts.mapM (ofFields ∘ toFields) = .ok read ↔
      (∀ t ∈ ts, t.Fits) ∧ read = ts.map id :=
    mapM_eq_ok_iff_forall fun t member _ => ofFields_toFields_iff (checked t member)
  rwa [List.map_id, ← List.mapM_map] at each

end Tensor

end OnnxCorpus
