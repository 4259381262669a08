import OnnxCorpus.Proofs.Fallible
import OnnxCorpus.Wire.Reader

/-!
# Reading back what was written

The bytes of a field that a schema declares are read as that field, whatever bytes follow, exactly
when its length fits 64 bits and its messages do not nest too deeply (`read_write_iff`); otherwise
they are refused, and never read as another field. So the bytes of a message are read as its fields
or not at all (`parse_writeAll_iff`).
-/

namespace OnnxCorpus.Wire

open Fallible

/-! ### Numbers and blocks -/

theorem Varint.write_ne_nil (n : Nat) : write n ≠ [] := by
  rw [write]
  split <;> simp

/-- A number of some groups takes no more bytes. -/
theorem Varint.length_write_le {n groups : Nat} (held : n >>> (7 * (groups + 1)) = 0) :
    (write n).length ≤ groups + 1 := by
  induction groups generalizing n with
  | zero =>
    rw [write, if_pos (by omega)]
    simp
  | succ groups ih =>
    rw [shiftRight_groups] at held
    rw [write]
    split
    · simp
    · have := ih held
      simp only [List.length_cons]
      omega

theorem WireType.code_mod (number : Nat) (type : WireType) :
    (number * 8 + type.code) % 8 = type.code := by
  have := type.code_lt
  omega

namespace Reader

theorem varint_write_iff {n : Nat} {rest : List UInt8} {r : UInt64 × Input} :
    varint (.ofBytes (Varint.write n ++ rest)) = .ok r ↔
      n < UInt64.size ∧ r = (.ofNat n, .ofBytes rest) := by
  rw [varint, Varint.read_write]
  by_cases h : n < UInt64.size
  · simp [h, eq_comm]
  · simp [h, fail]

theorem varint_write {n : Nat} (small : n < UInt64.size) (rest : List UInt8) :
    varint (.ofBytes (Varint.write n ++ rest)) = .ok (.ofNat n, .ofBytes rest) :=
  varint_write_iff.2 ⟨small, rfl⟩

theorem exactly_append (bytes rest : List UInt8) :
    exactly bytes.length (.ofBytes (bytes ++ rest)) = .ok (bytes, .ofBytes rest) := by
  rw [exactly, Input.take?_ofBytes_append]

theorem block_write_iff {bytes rest : List UInt8} {r : List UInt8 × Input} :
    block (.ofBytes (Varint.write bytes.length ++ bytes ++ rest)) = .ok r ↔
      bytes.length < UInt64.size ∧ r = (bytes, .ofBytes rest) := by
  rw [block, List.append_assoc, bind_eq_ok_iff]
  simp only [varint_write_iff]
  constructor
  · rintro ⟨-, ⟨small, rfl⟩, read⟩
    rw [UInt64.toNat_ofNat_of_lt' small, exactly_append, Except.ok.injEq] at read
    exact ⟨small, read.symm⟩
  · rintro ⟨small, rfl⟩
    refine ⟨_, ⟨small, rfl⟩, ?_⟩
    rw [UInt64.toNat_ofNat_of_lt' small, exactly_append]

theorem key_write {number : Nat} (positive : 0 < number) (small : number * 8 + 7 < UInt32.size)
    (type : WireType) (rest : List UInt8) :
    key (.ofBytes (writeKey number type ++ rest)) = .ok (⟨number, type⟩, .ofBytes rest) := by
  have bound := type.code_lt
  have fits : number * 8 + type.code < UInt64.size := by
    simp only [UInt32.size, UInt64.size] at *
    omega
  have narrow : ¬UInt32.size ≤ number * 8 + type.code := by omega
  have quotient : (number * 8 + type.code) / 8 = number := by omega
  simp only [key, writeKey, varint_write fits, ok_bind, UInt64.toNat_ofNat_of_lt' fits, if_neg narrow,
    WireType.code_mod, WireType.ofCode?_code, quotient]
  rw [if_neg (by omega)]

theorem scalar_write (value : Scalar) (rest : List UInt8) :
    scalar value.kind (.ofBytes (value.write ++ rest)) = .ok (value, .ofBytes rest) := by
  cases value with
  | varint n =>
    simp [scalar, Scalar.kind, Scalar.write, varint_write n.toNat_lt]
  | fixed32 n =>
    have read := exactly_append (LittleEndian.write 4 n.toNat) rest
    rw [LittleEndian.length_write] at read
    have value : LittleEndian.read (LittleEndian.write 4 n.toNat) = n.toNat :=
      LittleEndian.read_write (by have := n.toNat_lt; omega)
    simp [scalar, Scalar.kind, Scalar.write, read, value]
  | fixed64 n =>
    have read := exactly_append (LittleEndian.write 8 n.toNat) rest
    rw [LittleEndian.length_write] at read
    have value : LittleEndian.read (LittleEndian.write 8 n.toNat) = n.toNat :=
      LittleEndian.read_write (by have := n.toNat_lt; omega)
    simp [scalar, Scalar.kind, Scalar.write, read, value]

/-! ### Lists of items -/

section Items

variable {α β : Type} {item : Reader α} {write : β → List UInt8} {value : β → α} {p : β → Prop}
  {bs : List β}

theorem itemsUpTo_write_iff
    (step : ∀ b ∈ bs, ∀ rest r,
      item (.ofBytes (write b ++ rest)) = .ok r ↔ p b ∧ r = (value b, .ofBytes rest))
    (nonempty : ∀ b ∈ bs, write b ≠ []) {fuel : Nat} (enough : (bs.flatMap write).length ≤ fuel)
    {rest : List UInt8} {r : List α × Input} :
    itemsUpTo item rest.length fuel (.ofBytes (bs.flatMap write ++ rest)) = .ok r ↔
      (∀ b ∈ bs, p b) ∧ r = (bs.map value, .ofBytes rest) := by
  induction bs generalizing fuel r with
  | nil =>
    cases fuel <;> simp [itemsUpTo, eq_comm]
  | cons b bs ih =>
    have progress : 0 < (write b).length := List.length_pos_iff.2 (nonempty b List.mem_cons_self)
    simp only [List.flatMap_cons, List.length_append] at enough
    obtain ⟨fuel, rfl⟩ : ∃ less, fuel = less + 1 := ⟨fuel - 1, by omega⟩
    have later (as) := ih (r := as) (fun c member => step c (List.mem_cons_of_mem _ member))
      (fun c member => nonempty c (List.mem_cons_of_mem _ member))
      (show (bs.flatMap write).length ≤ fuel by omega)
    have unread : ¬(Input.ofBytes (write b ++ (bs.flatMap write ++ rest))).size ≤ rest.length := by
      simp only [Input.size_ofBytes, List.length_append]
      omega
    simp only [List.flatMap_cons, List.append_assoc, itemsUpTo, if_neg unread, bind_eq_ok_iff,
      step b List.mem_cons_self, List.forall_mem_cons, List.map_cons]
    constructor
    · rintro ⟨_, ⟨fits, rfl⟩, _, tail, result⟩
      obtain ⟨fit, rfl⟩ := (later _).1 tail
      exact ⟨⟨fits, fit⟩, (Except.ok.inj result).symm⟩
    · rintro ⟨⟨fits, fit⟩, rfl⟩
      exact ⟨_, ⟨fits, rfl⟩, _, (later _).2 ⟨fit, rfl⟩, rfl⟩

theorem items_write_iff
    (step : ∀ b ∈ bs, ∀ rest r,
      item (.ofBytes (write b ++ rest)) = .ok r ↔ p b ∧ r = (value b, .ofBytes rest))
    (nonempty : ∀ b ∈ bs, write b ≠ []) (rest : List UInt8) (r : List α × Input) :
    items item rest.length (.ofBytes (bs.flatMap write ++ rest)) = .ok r ↔
      (∀ b ∈ bs, p b) ∧ r = (bs.map value, .ofBytes rest) :=
  itemsUpTo_write_iff step nonempty (by simp)

theorem delimited_write_iff
    (step : ∀ b ∈ bs, ∀ rest r,
      item (.ofBytes (write b ++ rest)) = .ok r ↔ p b ∧ r = (value b, .ofBytes rest))
    (nonempty : ∀ b ∈ bs, write b ≠ []) (rest : List UInt8) (r : List α × Input) :
    delimited item (.ofBytes
        (Varint.write (bs.flatMap write).length ++ bs.flatMap write ++ rest)) = .ok r ↔
      (bs.flatMap write).length < UInt64.size ∧ (∀ b ∈ bs, p b) ∧
        r = (bs.map value, .ofBytes rest) := by
  have inner := items_write_iff step nonempty rest
  have limit : (Input.ofBytes (bs.flatMap write ++ rest)).size - (bs.flatMap write).length =
      rest.length := by simp
  have long : ¬(Input.ofBytes (bs.flatMap write ++ rest)).size < (bs.flatMap write).length := by
    simp
  rw [delimited, List.append_assoc, bind_eq_ok_iff]
  simp only [varint_write_iff]
  constructor
  · rintro ⟨-, ⟨small, rfl⟩, read⟩
    simp only [UInt64.toNat_ofNat_of_lt' small, if_neg long, limit, bind_eq_ok_iff, inner] at read
    obtain ⟨-, ⟨fit, rfl⟩, read⟩ := read
    exact ⟨small, fit, by simpa [eq_comm] using read⟩
  · rintro ⟨small, fit, rfl⟩
    refine ⟨_, ⟨small, rfl⟩, ?_⟩
    simp only [UInt64.toNat_ofNat_of_lt' small, if_neg long, limit, bind_eq_ok_iff, inner]
    exact ⟨_, ⟨fit, rfl⟩, by simp⟩

end Items

end Reader

/-! ### Fields -/

/-- Field numbers are positive and leave room for a wire type in a key of 32 bits. -/
def Schema.Keyed {τ : Type} (schema : Schema τ) : Prop :=
  ∀ type number spec, schema.field? type number = some spec →
    0 < number ∧ number * 8 + 7 < UInt32.size

namespace Field

variable {τ : Type} {schema : Schema τ} {type : τ}

/-- A field is of the kind that a schema declares for its number, and so are those inside it. -/
inductive Declared (schema : Schema τ) : τ → Field → Prop
  | scalar {type number name value} :
      schema.field? type number = some ⟨name, .scalar value.kind⟩ →
      Declared schema type (.scalar number value)
  | element {type number name value} :
      schema.field? type number = some ⟨name, .scalars value.kind⟩ →
      Declared schema type (.scalar number value)
  | packed {type number name kind values} :
      schema.field? type number = some ⟨name, .scalars kind⟩ →
      (∀ value ∈ values, value.kind = kind) →
      Declared schema type (.packed number values)
  | bytes {type number name value} :
      schema.field? type number = some ⟨name, .bytes⟩ →
      Declared schema type (.bytes number value)
  | text {type number name value} :
      schema.field? type number = some ⟨name, .text⟩ →
      Declared schema type (.text number value)
  | message {type number name inner fields} :
      schema.field? type number = some ⟨name, .message inner⟩ →
      (∀ f ∈ fields, Declared schema inner f) →
      Declared schema type (.message number fields)

/-- The length that a field declares; a single scalar declares none. -/
def valueLength : Field → Nat
  | .scalar .. => 0
  | .packed _ values => (values.flatMap Scalar.write).length
  | .bytes _ value => value.length
  | .text _ value => (utf8 value).length
  | .message _ fields => (writeAll fields).length

theorem writeAll_eq_flatMap (fields : List Field) : writeAll fields = fields.flatMap write := by
  induction fields with
  | nil => rfl
  | cons f rest ih => rw [writeAll, ih, List.flatMap_cons]

theorem writeAll_append (fields others : List Field) :
    writeAll (fields ++ others) = writeAll fields ++ writeAll others := by
  simp only [writeAll_eq_flatMap, List.flatMap_append]

theorem write_ne_nil (f : Field) : f.write ≠ [] := by
  cases f <;> simp [write, delimit, writeKey, Varint.write_ne_nil]

theorem scalar_write_ne_nil (value : Scalar) : value.write ≠ [] := by
  cases value <;> simp [Scalar.write, Varint.write_ne_nil, LittleEndian.write]

theorem valueLength_le_length_write (f : Field) : f.valueLength ≤ f.write.length := by
  cases f <;> simp [valueLength, write, delimit] <;> omega

theorem length_write_le_of_mem {f : Field} {fields : List Field} (member : f ∈ fields) :
    f.write.length ≤ (writeAll fields).length := by
  rw [writeAll_eq_flatMap]
  exact (List.sublist_flatten_of_mem (List.mem_map_of_mem member)).length_le

/-- The bytes of a field stand together among those of its message. -/
theorem write_within_of_mem {f : Field} {fields : List Field} (member : f ∈ fields) :
    f.write <:+: writeAll fields := by
  obtain ⟨first, rest, rfl⟩ := List.append_of_mem member
  refine ⟨writeAll first, writeAll rest, ?_⟩
  rw [writeAll_append, writeAll, List.append_assoc]

theorem writeAll_within_of_mem {number : Nat} {inner fields : List Field}
    (member : .message number inner ∈ fields) : writeAll inner <:+: writeAll fields :=
  (List.suffix_append _ _).isInfix.trans (write_within_of_mem member)

theorem maxHeight_le_iff {fields : List Field} {depth : Nat} :
    maxHeight fields ≤ depth ↔ ∀ f ∈ fields, f.height ≤ depth := by
  induction fields with
  | nil => simp [maxHeight]
  | cons f rest ih => rw [maxHeight, Nat.max_le, ih, List.forall_mem_cons]

variable {inner : Option (τ → Reader (Option Field))} {skip : Key → Input → Except Malformed Input}

/-- After its key, a declared field is read by the kind it is declared with. -/
theorem readWith_key_iff (keyed : schema.Keyed) {number : Nat} {spec : FieldSpec τ}
    (declared : schema.field? type number = some spec) {wireType : WireType}
    {bytes : List UInt8} {p : Prop} {f : Field} {rest : Input}
    (value : ∀ r, readValue inner ⟨number, wireType⟩ spec.kind (.ofBytes bytes) = .ok r ↔
      p ∧ r = (f, rest)) {r : Option Field × Input} :
    readWith schema inner skip type (.ofBytes (writeKey number wireType ++ bytes)) = .ok r ↔
      p ∧ r = (some f, rest) := by
  obtain ⟨positive, small⟩ := keyed type number spec declared
  simp only [readWith, Reader.key_write positive small, ok_bind, declared]
  cases read : readValue inner ⟨number, wireType⟩ spec.kind (.ofBytes bytes) with
  | ok found =>
    obtain ⟨fits, rfl⟩ := (value found).1 read
    simp [fits, eq_comm]
  | error e =>
    have refused : ¬p := fun fits => by simp [(value (f, rest)).2 ⟨fits, rfl⟩] at read
    simp [refused]

/-- The same for a value that is delimited by its length. -/
theorem readWith_delimit_iff (keyed : schema.Keyed) {number : Nat} {spec : FieldSpec τ}
    (declared : schema.field? type number = some spec) {bytes rest : List UInt8} {p : Prop}
    {f : Field}
    (value : ∀ r, readValue inner ⟨number, .lengthDelimited⟩ spec.kind
      (.ofBytes (Varint.write bytes.length ++ bytes ++ rest)) = .ok r ↔
        p ∧ r = (f, .ofBytes rest)) {r : Option Field × Input} :
    readWith schema inner skip type (.ofBytes (delimit number bytes ++ rest)) = .ok r ↔
      p ∧ r = (some f, .ofBytes rest) := by
  rw [delimit, List.append_assoc, List.append_assoc]
  rw [List.append_assoc] at value
  exact readWith_key_iff keyed declared value

theorem readValue_scalar (number : Nat) (value : Scalar) (rest : List UInt8) :
    readValue inner ⟨number, value.kind.wireType⟩ (.scalar value.kind)
      (.ofBytes (value.write ++ rest)) = .ok (.scalar number value, .ofBytes rest) := by
  simp [readValue, Key.expect, Reader.scalar_write]

theorem readValue_element (number : Nat) (value : Scalar) (rest : List UInt8) :
    readValue inner ⟨number, value.kind.wireType⟩ (.scalars value.kind)
      (.ofBytes (value.write ++ rest)) = .ok (.scalar number value, .ofBytes rest) := by
  have unpacked : value.kind.wireType ≠ .lengthDelimited := by
    cases value.kind <;> decide
  simp [readValue, Key.expect, Reader.scalar_write, unpacked]

theorem readValue_packed_iff {number : Nat} {kind : ScalarKind} {values : List Scalar}
    (kinds : ∀ value ∈ values, value.kind = kind) {rest : List UInt8} {r : Field × Input} :
    readValue inner ⟨number, .lengthDelimited⟩ (.scalars kind)
        (.ofBytes (Varint.write (values.flatMap Scalar.write).length ++
          values.flatMap Scalar.write ++ rest)) = .ok r ↔
      (values.flatMap Scalar.write).length < UInt64.size ∧
        r = (.packed number values, .ofBytes rest) := by
  have step : ∀ value ∈ values, ∀ rest r,
      Reader.scalar kind (.ofBytes (value.write ++ rest)) = .ok r ↔
        True ∧ r = (id value, .ofBytes rest) := by
    intro value member rest r
    rw [← kinds value member, Reader.scalar_write]
    simp [eq_comm]
  have read (r) := Reader.delimited_write_iff step (fun value _ => scalar_write_ne_nil value) rest r
  simp only [readValue, if_true, bind_eq_ok_iff, read]
  simp [eq_comm]

theorem readValue_bytes_iff {number : Nat} {value rest : List UInt8} {r : Field × Input} :
    readValue inner ⟨number, .lengthDelimited⟩ .bytes
        (.ofBytes (Varint.write value.length ++ value ++ rest)) = .ok r ↔
      value.length < UInt64.size ∧ r = (.bytes number value, .ofBytes rest) := by
  simp only [readValue, Key.expect, if_true, ok_bind, bind_eq_ok_iff, Reader.block_write_iff]
  simp [eq_comm]

theorem readValue_text_iff {number : Nat} {value : String} {rest : List UInt8}
    {r : Field × Input} :
    readValue inner ⟨number, .lengthDelimited⟩ .text
        (.ofBytes (Varint.write (utf8 value).length ++ utf8 value ++ rest)) = .ok r ↔
      (utf8 value).length < UInt64.size ∧ r = (.text number value, .ofBytes rest) := by
  simp only [readValue, Key.expect, if_true, ok_bind, bind_eq_ok_iff, Reader.block_write_iff]
  simp [eq_comm]

/-- A message is read if messages may nest one deeper and its fields are read one level down. -/
theorem readValue_message_iff {number : Nat} {inside : τ} {fields : List Field} {p : Field → Prop}
    (step : ∀ field, inner = some field → ∀ f ∈ fields, ∀ rest r,
      field inside (.ofBytes (f.write ++ rest)) = .ok r ↔ p f ∧ r = (some f, .ofBytes rest))
    {rest : List UInt8} {r : Field × Input} :
    readValue inner ⟨number, .lengthDelimited⟩ (.message inside)
        (.ofBytes (Varint.write (writeAll fields).length ++ writeAll fields ++ rest)) = .ok r ↔
      (inner.isSome ∧ (writeAll fields).length < UInt64.size ∧ ∀ f ∈ fields, p f) ∧
        r = (.message number fields, .ofBytes rest) := by
  cases inner with
  | none => simp [readValue, Key.expect, fail]
  | some field =>
    have read (r) := Reader.delimited_write_iff (step field rfl) (fun f _ => write_ne_nil f) rest r
    rw [writeAll_eq_flatMap]
    simp only [readValue, Key.expect, if_true, ok_bind, bind_eq_ok_iff, read, Option.isSome_some,
      true_and]
    constructor
    · rintro ⟨_, ⟨small, fit, rfl⟩, result⟩
      exact ⟨⟨small, fit⟩, by simpa [eq_comm] using result⟩
    · rintro ⟨⟨small, fit⟩, rfl⟩
      exact ⟨_, ⟨small, fit, rfl⟩, by simp⟩

/-! ### Messages -/

/-- What `read` reads one level down. -/
def reader? (schema : Schema τ) : Nat → Option (τ → Reader (Option Field))
  | 0 => none
  | depth + 1 => some (read schema depth)

theorem read_eq_readWith (schema : Schema τ) (depth : Nat) :
    read schema depth = readWith schema (reader? schema depth) (skipValue depth) := by
  cases depth <;> rfl

theorem read_write_iff (keyed : schema.Keyed) {f : Field} (declared : Declared schema type f)
    {depth : Nat} {rest : List UInt8} {r : Option Field × Input} :
    read schema depth type (.ofBytes (f.write ++ rest)) = .ok r ↔
      (f.height ≤ depth ∧ f.valueLength < UInt64.size) ∧ r = (some f, .ofBytes rest) := by
  rw [read_eq_readWith]
  induction declared generalizing depth rest r with
  | scalar spec =>
    rw [write, List.append_assoc]
    refine readWith_key_iff keyed spec fun r => ?_
    simp [readValue_scalar, height, valueLength, eq_comm]
  | element spec =>
    rw [write, List.append_assoc]
    refine readWith_key_iff keyed spec fun r => ?_
    simp [readValue_element, height, valueLength, eq_comm]
  | packed spec kinds =>
    refine readWith_delimit_iff keyed spec fun r => ?_
    rw [readValue_packed_iff kinds, height, valueLength]
    simp only [Nat.zero_le, true_and]
  | bytes spec =>
    refine readWith_delimit_iff keyed spec fun r => ?_
    rw [readValue_bytes_iff, height, valueLength]
    simp only [Nat.zero_le, true_and]
  | text spec =>
    refine readWith_delimit_iff keyed spec fun r => ?_
    rw [readValue_text_iff, height, valueLength]
    simp only [Nat.zero_le, true_and]
  | @message type number name inside fields spec _ ih =>
    -- The lengths inside a message are below its own, so only the nesting is left to ask for.
    have shorter (small : (writeAll fields).length < UInt64.size) :
        ∀ f ∈ fields, f.valueLength < UInt64.size := fun f member =>
      Nat.lt_of_le_of_lt
        (Nat.le_trans (valueLength_le_length_write f) (length_write_le_of_mem member)) small
    refine readWith_delimit_iff keyed spec fun r => ?_
    cases depth with
    | zero => simp [readValue, Key.expect, fail, reader?, height]
    | succ depth =>
      have step (field) (found : reader? schema (depth + 1) = some field) (f) (member : f ∈ fields)
          (rest r) : field inside (.ofBytes (f.write ++ rest)) = .ok r ↔
            (f.height ≤ depth ∧ f.valueLength < UInt64.size) ∧ r = (some f, .ofBytes rest) := by
        obtain rfl : read schema depth = field := Option.some.inj found
        rw [read_eq_readWith]
        exact ih f member
      rw [readValue_message_iff step, height, valueLength, Nat.add_le_add_iff_right,
        maxHeight_le_iff]
      simp only [reader?, Option.isSome_some, true_and]
      grind

/-- The bytes of a message are read as its fields or not at all. -/
theorem parse_writeAll_iff (keyed : schema.Keyed) {fields : List Field}
    (declared : ∀ f ∈ fields, Declared schema type f) {depth : Nat} {read : List Field} :
    parse schema depth type (writeAll fields) = .ok read ↔
      (∀ f ∈ fields, f.height ≤ depth ∧ f.valueLength < UInt64.size) ∧ read = fields := by
  have step : ∀ f ∈ fields, ∀ rest r, Field.read schema depth type (.ofBytes (f.write ++ rest)) =
      .ok r ↔ (f.height ≤ depth ∧ f.valueLength < UInt64.size) ∧ r = (some f, .ofBytes rest) :=
    fun f member rest r => read_write_iff keyed (declared f member)
  have items (r) := Reader.items_write_iff step (fun f _ => write_ne_nil f) [] r
  rw [List.append_nil, ← writeAll_eq_flatMap, List.length_nil] at items
  rw [parse, bind_eq_ok_iff]
  simp only [items]
  constructor
  · rintro ⟨_, ⟨fit, rfl⟩, result⟩
    exact ⟨fit, by simpa [eq_comm] using result⟩
  · rintro ⟨fit, rfl⟩
    exact ⟨_, ⟨fit, rfl⟩, by simp⟩

end Field

end OnnxCorpus.Wire
