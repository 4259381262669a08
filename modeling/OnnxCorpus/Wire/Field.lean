import OnnxCorpus.LittleEndian
import OnnxCorpus.Text.Utf8
import OnnxCorpus.Wire.Varint

/-!
# Fields and their bytes

A message is a list of numbered fields in the order of the file. A field holds a scalar, a packed
list of scalars, bytes, a text, or another message, and its bytes are a key (the number and a wire
type) and a value; all but a single scalar have their length before them.
-/

namespace OnnxCorpus.Wire

/-- How the value after a key is delimited. -/
inductive WireType where
  | varint
  | sixtyFourBit
  | lengthDelimited
  | startGroup
  | endGroup
  | thirtyTwoBit
deriving DecidableEq

namespace WireType

/-- The low three bits of a key. -/
def code : WireType → Nat
  | varint => 0
  | sixtyFourBit => 1
  | lengthDelimited => 2
  | startGroup => 3
  | endGroup => 4
  | thirtyTwoBit => 5

/-- The wire type that the low bits of a key stand for. -/
def ofCode? : Nat → Option WireType
  | 0 => some varint
  | 1 => some sixtyFourBit
  | 2 => some lengthDelimited
  | 3 => some startGroup
  | 4 => some endGroup
  | 5 => some thirtyTwoBit
  | _ => none

@[simp] theorem ofCode?_code (t : WireType) : ofCode? t.code = some t := by
  cases t <;> rfl

theorem code_lt (t : WireType) : t.code < 8 := by
  cases t <;> decide

end WireType

/-- The encodings of a single number. -/
inductive ScalarKind where
  | varint
  | fixed32
  | fixed64
deriving DecidableEq

/-- The wire type of an encoding. -/
def ScalarKind.wireType : ScalarKind → WireType
  | varint => .varint
  | fixed32 => .thirtyTwoBit
  | fixed64 => .sixtyFourBit

/-- A single number in one of the encodings. -/
inductive Scalar where
  | varint (n : UInt64)
  | fixed32 (n : UInt32)
  | fixed64 (n : UInt64)
deriving DecidableEq

namespace Scalar

/-- The encoding that a number is in. -/
def kind : Scalar → ScalarKind
  | varint _ => .varint
  | fixed32 _ => .fixed32
  | fixed64 _ => .fixed64

/-- The bytes of a number. -/
def write : Scalar → List UInt8
  | varint n => Varint.write n.toNat
  | fixed32 n => LittleEndian.write 4 n.toNat
  | fixed64 n => LittleEndian.write 8 n.toNat

end Scalar

/-- A numbered field of a message. -/
inductive Field where
  | scalar (number : Nat) (value : Scalar)
  | packed (number : Nat) (values : List Scalar)
  | bytes (number : Nat) (value : List UInt8)
  | text (number : Nat) (value : String)
  | message (number : Nat) (fields : List Field)

/-- The bytes of a key. -/
def writeKey (number : Nat) (type : WireType) : List UInt8 :=
  Varint.write (number * 8 + type.code)

/-- A key, the length of a value, and the value. -/
def delimit (number : Nat) (value : List UInt8) : List UInt8 :=
  writeKey number .lengthDelimited ++ Varint.write value.length ++ value

namespace Field

mutual

/-- The bytes of a field. -/
def write : Field → List UInt8
  | scalar number value => writeKey number value.kind.wireType ++ value.write
  | packed number values => delimit number (values.flatMap Scalar.write)
  | bytes number value => delimit number value
  | text number value => delimit number (utf8 value)
  | message number fields => delimit number (writeAll fields)
termination_by structural f => f

/-- The bytes of a message. -/
def writeAll : List Field → List UInt8
  | [] => []
  | f :: rest => f.write ++ writeAll rest
termination_by structural fs => fs

end

mutual

/-- How deep messages nest in a field. -/
def height : Field → Nat
  | message _ fields => maxHeight fields + 1
  | scalar .. | packed .. | bytes .. | text .. => 0
termination_by structural f => f

/-- How deep messages nest in the fields of a message. -/
def maxHeight : List Field → Nat
  | [] => 0
  | f :: rest => max f.height (maxHeight rest)
termination_by structural fs => fs

end

/-- The number of a field. -/
def number : Field → Nat
  | scalar n _ | packed n _ | bytes n _ | text n _ | message n _ => n

end Field

end OnnxCorpus.Wire
