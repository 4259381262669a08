import OnnxCorpus.Wire.Malformed
import OnnxCorpus.Wire.Schema

/-!
# Reading messages

`Field.parse` reads the fields of a message under a schema. Fields that the schema does not
declare are skipped, groups among them. A length is held against what is left of the whole input,
so a message inside another may run past its end, and that is noticed only after it has been read.
Messages and skipped groups nest up to a given depth.
-/

namespace OnnxCorpus.Wire

/-- Reads from the start of the input and gives what is left of it. -/
abbrev Reader (α : Type) : Type := Input → Except Malformed (α × Input)

/-- A defect at the place that is being read. -/
def fail {α : Type} (defect : Defect) : Except Malformed α := .error ⟨[], defect⟩

/-- A field number and the wire type of its value. -/
structure Key where
  number : Nat
  wireType : WireType
deriving DecidableEq

namespace Reader

variable {α : Type}

/-- A number of variable width. -/
def varint : Reader UInt64 := fun input =>
  match Varint.read input with
  | some read => .ok read
  | none => fail .varint

/-- Exactly `n` bytes. -/
def exactly (n : Nat) : Reader (List UInt8) := fun input =>
  match input.take? n with
  | some read => .ok read
  | none => fail .underflow

/-- A length and as many bytes. -/
def block : Reader (List UInt8) := fun input => do
  let (length, rest) ← varint input
  exactly length.toNat rest

/-- The key of a field. Its parts are checked from the whole number to the field number. -/
def key : Reader Key := fun input => do
  let (n, rest) ← varint input
  if UInt32.size ≤ n.toNat then fail (.key n)
  else
    match WireType.ofCode? (n.toNat % 8) with
    | none => fail (.wireType (n.toNat % 8))
    | some wireType =>
      if n.toNat / 8 = 0 then fail .fieldNumber else .ok (⟨n.toNat / 8, wireType⟩, rest)

/-- A single number in an encoding. -/
def scalar : ScalarKind → Reader Scalar
  | .varint => fun input => do
    let (n, rest) ← varint input
    .ok (.varint n, rest)
  | .fixed32 => fun input => do
    let (bytes, rest) ← exactly 4 input
    .ok (.fixed32 (.ofNat (LittleEndian.read bytes)), rest)
  | .fixed64 => fun input => do
    let (bytes, rest) ← exactly 8 input
    .ok (.fixed64 (.ofNat (LittleEndian.read bytes)), rest)

/-- Up to `fuel` items, until no more than `limit` bytes are left. An item takes at least one
byte, so the bytes above the limit are fuel enough. -/
def itemsUpTo (item : Reader α) (limit : Nat) : Nat → Reader (List α)
  | 0 => fun input => .ok ([], input)
  | fuel + 1 => fun input =>
    if input.size ≤ limit then .ok ([], input)
    else do
      let (a, rest) ← item input
      let (as, rest) ← itemsUpTo item limit fuel rest
      .ok (a :: as, rest)

/-- Items until no more than `limit` bytes are left. -/
def items (item : Reader α) (limit : Nat) : Reader (List α) := fun input =>
  itemsUpTo item limit (input.size - limit) input

/-- A length and items that fill it. -/
def delimited (item : Reader α) : Reader (List α) := fun input => do
  let (length, rest) ← varint input
  if rest.size < length.toNat then fail .underflow
  else
    let limit := rest.size - length.toNat
    let (as, rest) ← items item limit rest
    if rest.size = limit then .ok (as, rest) else fail .overrun

end Reader

/-- Refuses a key whose wire type is not the expected one. -/
def Key.expect (key : Key) (expected : WireType) : Except Malformed Unit :=
  if key.wireType = expected then .ok () else fail (.mismatch key.wireType expected)

/-- Skips up to `fuel` fields and the end of the group of a number. A key takes at least one byte,
so without fuel nothing is left to read a key from. -/
def skipGroup (skipValue : Key → Input → Except Malformed Input) (number : Nat) :
    Nat → Input → Except Malformed Input
  | 0, _ => fail .varint
  | fuel + 1, input => do
    let (key, rest) ← Reader.key input
    if key.wireType = .endGroup then
      if key.number = number then .ok rest else fail .endGroup
    else
      let rest ← skipValue key rest
      skipGroup skipValue number fuel rest

/-- Skips the value after a key, where groups may nest `depth` deep. -/
def skipValue : Nat → Key → Input → Except Malformed Input
  | 0, _, _ => fail .nesting
  | depth + 1, key, input =>
    match key.wireType with
    | .varint => do
      let (_, rest) ← Reader.varint input
      .ok rest
    | .thirtyTwoBit => do
      let (_, rest) ← Reader.exactly 4 input
      .ok rest
    | .sixtyFourBit => do
      let (_, rest) ← Reader.exactly 8 input
      .ok rest
    | .lengthDelimited => do
      let (_, rest) ← Reader.block input
      .ok rest
    | .startGroup => skipGroup (skipValue depth) key.number input.size input
    | .endGroup => fail .endGroup

namespace Field

variable {τ : Type}

/-- The value after a key of a declared field. A field of a message one level down is read by
`inner`, if messages may nest that deep. -/
def readValue (inner : Option (τ → Reader (Option Field))) (key : Key) :
    FieldKind τ → Reader Field
  | .scalar kind => fun input => do
    key.expect kind.wireType
    let (value, rest) ← Reader.scalar kind input
    .ok (scalar key.number value, rest)
  | .scalars kind => fun input =>
    if key.wireType = .lengthDelimited then do
      let (values, rest) ← Reader.delimited (Reader.scalar kind) input
      .ok (packed key.number values, rest)
    else do
      key.expect kind.wireType
      let (value, rest) ← Reader.scalar kind input
      .ok (scalar key.number value, rest)
  | .bytes => fun input => do
    key.expect .lengthDelimited
    let (value, rest) ← Reader.block input
    .ok (bytes key.number value, rest)
  | .text => fun input => do
    key.expect .lengthDelimited
    let (value, rest) ← Reader.block input
    match ofUtf8? value with
    | some value => .ok (text key.number value, rest)
    | none => fail .text
  | .message type => fun input => do
    key.expect .lengthDelimited
    match inner with
    | none => fail .nesting
    | some field =>
      let (fields, rest) ← Reader.delimited (field type) input
      .ok (message key.number (fields.filterMap id), rest)

/-- A field of a message, or `none` for one that the schema does not declare, with the readers of
what nests in it. -/
def readWith (schema : Schema τ) (inner : Option (τ → Reader (Option Field)))
    (skip : Key → Input → Except Malformed Input) (type : τ) : Reader (Option Field) :=
  fun input => do
    let (key, rest) ← Reader.key input
    match schema.field? type key.number with
    | none =>
      let rest ← skip key rest
      .ok (none, rest)
    | some spec =>
      match readValue inner key spec.kind rest with
      | .ok (field, rest) => .ok (some field, rest)
      | .error e => .error (e.inside (schema.place type spec))

/-- A field of a message in which messages may nest `depth` deep. -/
def read (schema : Schema τ) : Nat → τ → Reader (Option Field)
  | 0 => readWith schema none (skipValue 0)
  | depth + 1 => readWith schema (some (read schema depth)) (skipValue (depth + 1))

/-- The fields of a message that takes up the whole input. -/
def parse (schema : Schema τ) (depth : Nat) (type : τ) (bytes : List UInt8) :
    Except Malformed (List Field) := do
  let (fields, _) ← Reader.items (read schema depth type) 0 (.ofBytes bytes)
  .ok (fields.filterMap id)

end Field

end OnnxCorpus.Wire
