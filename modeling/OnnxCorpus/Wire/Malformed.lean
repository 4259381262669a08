import OnnxCorpus.Wire.Field

/-!
# Malformed input

What can be wrong with the bytes of a message, and in which field of which message it was found.
-/

namespace OnnxCorpus.Wire

/-- The name of a wire type in messages. -/
def WireType.name : WireType → String
  | varint => "Varint"
  | sixtyFourBit => "SixtyFourBit"
  | lengthDelimited => "LengthDelimited"
  | startGroup => "StartGroup"
  | endGroup => "EndGroup"
  | thirtyTwoBit => "ThirtyTwoBit"

/-- What is wrong with the bytes. -/
inductive Defect where
  /-- The input ends inside a number, or the number leaves 64 bits. -/
  | varint
  /-- A key leaves 32 bits. -/
  | key (key : UInt64)
  /-- The low bits of a key are no wire type. -/
  | wireType (code : Nat)
  /-- A key has the field number zero. -/
  | fieldNumber
  /-- The wire type of a key does not fit its field. -/
  | mismatch (actual expected : WireType)
  /-- A value is longer than what is left of the whole input. -/
  | underflow
  /-- A message or a packed list was read past its end. -/
  | overrun
  /-- The end of a group that was not begun. -/
  | endGroup
  /-- The bytes of a text are not UTF-8. -/
  | text
  /-- Messages or groups are nested too deeply. -/
  | nesting
deriving DecidableEq

/-- The text of a defect. -/
def Defect.message : Defect → String
  | varint => "invalid varint"
  | key n => s!"invalid key value: {n.toNat}"
  | wireType code => s!"invalid wire type value: {code}"
  | fieldNumber => "invalid tag value: 0"
  | mismatch actual expected => s!"invalid wire type: {actual.name} (expected {expected.name})"
  | underflow => "buffer underflow"
  | overrun => "delimited length exceeded"
  | endGroup => "unexpected end group tag"
  | text => "invalid string value: data is not UTF-8 encoded"
  | nesting => "recursion limit reached"

/-- A defect and the fields it lies in, innermost first. -/
structure Malformed where
  path : List String
  defect : Defect
deriving DecidableEq

namespace Malformed

/-- The text of a defect, with its place before it. -/
def message (m : Malformed) : String :=
  String.join (m.path.map (· ++ ": ")) ++ m.defect.message

/-- The same defect, found inside a field. -/
def inside (field : String) (m : Malformed) : Malformed := { m with path := m.path ++ [field] }

end Malformed

end OnnxCorpus.Wire
