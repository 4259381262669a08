import OnnxCorpus.Binary
import OnnxCorpus.Element
import OnnxCorpus.Fault
import OnnxCorpus.Text.Quoted
import OnnxCorpus.Text.Utf8

/-!
# Constant tensors

A tensor has a name, an element type, dims and a payload. The payload is grouped by the storage
that a file keeps it in, and one storage serves several element types. `Tensor.new` builds a
tensor whose storage fits its type and whose payload holds as many elements as the dims say; the
product of the dims is taken from left to right in 64 bits, and leaving them is a crash.
-/

namespace OnnxCorpus

/-- The kinds of storage a file has for tensor elements. -/
inductive Storage where
  | float
  | double
  | int32
  | int64
  | uint64
  | string
  | raw
deriving DecidableEq

namespace Storage

/-- The name of a storage kind in messages. -/
def name : Storage → String
  | float => "float"
  | double => "double"
  | int32 => "int32"
  | int64 => "int64"
  | uint64 => "uint64"
  | string => "string"
  | raw => "raw"

/-- Whether a storage kind can hold elements of a type. Narrow integers, booleans and the 16-bit
floats share the 32-bit storage, and raw storage takes every type of a fixed width. -/
def accepts : Storage → ElementType → Bool
  | float, t => t == .f32
  | double, t => t == .f64
  | int32, t => t ∈ [.i32, .i16, .i8, .u16, .u8, .bool, .f16, .bf16]
  | int64, t => t == .i64
  | uint64, t => t ∈ [.u32, .u64]
  | string, t => t == .string
  | raw, t => t.byteWidth.isSome

end Storage

/-- The elements of a tensor in the storage they are kept in. -/
inductive Payload where
  | float (values : List Binary32)
  | double (values : List Binary64)
  | int32 (values : List Int32)
  | int64 (values : List Int64)
  | uint64 (values : List UInt64)
  | string (values : List (List UInt8))
  | raw (bytes : List UInt8)
deriving DecidableEq

namespace Payload

/-- The storage that a payload is kept in. -/
def storage : Payload → Storage
  | float _ => .float
  | double _ => .double
  | int32 _ => .int32
  | int64 _ => .int64
  | uint64 _ => .uint64
  | string _ => .string
  | raw _ => .raw

/-- The number of whole elements of a type in a payload. -/
def count (t : ElementType) : Payload → Nat
  | float values => values.length
  | double values => values.length
  | int32 values => values.length
  | int64 values => values.length
  | uint64 values => values.length
  | string values => values.length
  | raw bytes => bytes.length / t.byteWidth.getD 1

/-- Whether raw bytes end inside an element. -/
def isRagged (t : ElementType) : Payload → Bool
  | raw bytes => bytes.length % t.byteWidth.getD 1 != 0
  | _ => false

/-- Numeric equality: equal storage and elements, floats compared as numbers. -/
def equals : Payload → Payload → Bool
  | float xs, float ys => xs.isEqv ys Binary32.equals
  | double xs, double ys => xs.isEqv ys Binary64.equals
  | int32 xs, int32 ys => xs == ys
  | int64 xs, int64 ys => xs == ys
  | uint64 xs, uint64 ys => xs == ys
  | string xs, string ys => xs == ys
  | raw xs, raw ys => xs == ys
  | _, _ => false

end Payload

/-- Why a tensor is refused. -/
inductive TensorError where
  | storageMismatch (name : String) (type : ElementType) (storage : Storage)
  | elementCount (name : String) (dims : List UInt64) (expected actual : Nat)
deriving DecidableEq

/-- The text of a refusal. -/
def TensorError.message : TensorError → String
  | storageMismatch name type storage =>
    s!"tensor '{name}': {storage.name} storage cannot hold {type.name} elements"
  | elementCount name dims expected actual =>
    s!"tensor '{name}': dims {Text.numberList dims} hold {expected} elements but {actual} " ++
      "were supplied"

/-- The product of dims, multiplied from left to right; `none` when a partial product leaves 64
bits, even if a later factor is zero. -/
def product? (dims : List UInt64) : Option Nat :=
  dims.foldlM (fun product d =>
    if product * d.toNat < UInt64.size then some (product * d.toNat) else none) 1

/-- A named constant. The fields are free; `Tensor.new` checks them. -/
structure Tensor where
  name : String
  type : ElementType
  dims : List UInt64
  payload : Payload
deriving DecidableEq

namespace Tensor

/-- A tensor whose storage fits its type and whose dims count its payload exactly. -/
def new (name : String) (type : ElementType) (dims : List UInt64) (payload : Payload) :
    Except (Fault TensorError) Tensor :=
  if payload.storage.accepts type then
    match product? dims with
    | none => .error (.crash Fault.overflow)
    | some expected =>
      if expected ≠ payload.count type ∨ payload.isRagged type then
        .error (.error (.elementCount name dims expected (payload.count type)))
      else .ok ⟨name, type, dims, payload⟩
  else .error (.error (.storageMismatch name type payload.storage))

/-- A tensor of single-precision values. -/
def floats (name : String) (dims : List UInt64) (values : List Binary32) :=
  new name .f32 dims (.float values)

/-- A tensor of double-precision values. -/
def doubles (name : String) (dims : List UInt64) (values : List Binary64) :=
  new name .f64 dims (.double values)

/-- A tensor of 64-bit integers. -/
def int64s (name : String) (dims : List UInt64) (values : List Int64) :=
  new name .i64 dims (.int64 values)

/-- A tensor of any type that is kept in 32-bit storage. -/
def int32s (name : String) (type : ElementType) (dims : List UInt64) (values : List Int32) :=
  new name type dims (.int32 values)

/-- A tensor of either unsigned type that is kept in 64-bit storage. -/
def uint64s (name : String) (type : ElementType) (dims : List UInt64) (values : List UInt64) :=
  new name type dims (.uint64 values)

/-- A tensor of booleans, each kept as one or zero. -/
def bools (name : String) (dims : List UInt64) (values : List Bool) :=
  new name .bool dims (.int32 (values.map fun b => if b then 1 else 0))

/-- Half-precision values, given by their bits. -/
def halves (name : String) (dims : List UInt64) (bits : List UInt16) :=
  new name .f16 dims (.int32 (bits.map fun b => b.toUInt32.toInt32))

/-- A tensor of texts. -/
def strings (name : String) (dims : List UInt64) (texts : List String) :=
  new name .string dims (.string (texts.map utf8))

/-- A tensor kept as raw bytes, lowest byte of each element first. -/
def raw (name : String) (type : ElementType) (dims : List UInt64) (bytes : List UInt8) :=
  new name type dims (.raw bytes)

/-- Numeric equality: equal fields, floats compared as numbers. -/
def equals (s t : Tensor) : Bool :=
  s.name == t.name && s.type == t.type && s.dims == t.dims && s.payload.equals t.payload

end Tensor

end OnnxCorpus
