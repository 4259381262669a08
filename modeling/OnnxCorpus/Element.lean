/-!
# Element types

The types of the elements of a tensor: how they are called, how wide one element is in raw
storage, and the number that stands for each in a file. `ofCode?_eq_some_iff` says that a number
and a type determine each other.
-/

namespace OnnxCorpus

/-- The type of the elements of a tensor or of a graph value. -/
inductive ElementType where
  | undefined
  | f32
  | u8
  | i8
  | u16
  | i16
  | i32
  | i64
  | string
  | bool
  | f16
  | f64
  | u32
  | u64
  | bf16
deriving DecidableEq

namespace ElementType

/-- Every element type, in the order of the codes. -/
def all : List ElementType :=
  [undefined, f32, u8, i8, u16, i16, i32, i64, string, bool, f16, f64, u32, u64, bf16]

/-- The name of a type in messages and summaries. -/
def name : ElementType → String
  | undefined => "Undefined"
  | f32 => "F32"
  | u8 => "U8"
  | i8 => "I8"
  | u16 => "U16"
  | i16 => "I16"
  | i32 => "I32"
  | i64 => "I64"
  | string => "String"
  | bool => "Bool"
  | f16 => "F16"
  | f64 => "F64"
  | u32 => "U32"
  | u64 => "U64"
  | bf16 => "BF16"

/-- The type of a given name. -/
def ofName? (text : String) : Option ElementType :=
  all.find? (·.name = text)

/-- The bytes one element takes in raw storage, for the types that have a raw form. -/
def byteWidth : ElementType → Option Nat
  | u8 | i8 | bool => some 1
  | u16 | i16 | f16 | bf16 => some 2
  | f32 | i32 | u32 => some 4
  | f64 | i64 | u64 => some 8
  | string | undefined => none

/-- The number that stands for a type in a file; 14 and 15, the complex types, are not used. -/
def code : ElementType → Int32
  | undefined => 0
  | f32 => 1
  | u8 => 2
  | i8 => 3
  | u16 => 4
  | i16 => 5
  | i32 => 6
  | i64 => 7
  | string => 8
  | bool => 9
  | f16 => 10
  | f64 => 11
  | u32 => 12
  | u64 => 13
  | bf16 => 16

/-- The type a number in a file stands for. -/
def ofCode? (n : Int32) : Option ElementType :=
  all.find? (·.code = n)

theorem code_injective {s t : ElementType} (h : s.code = t.code) : s = t := by
  revert h
  cases s <;> cases t <;> decide

@[simp] theorem ofCode?_code (t : ElementType) : ofCode? t.code = some t := by
  cases t <;> decide

/-- A number is read as a type exactly when it is that type's code. -/
theorem ofCode?_eq_some_iff {n : Int32} {t : ElementType} : ofCode? n = some t ↔ n = t.code := by
  constructor
  · intro h
    simpa [eq_comm] using List.find?_some h
  · rintro rfl
    exact ofCode?_code t

theorem byteWidth_pos {t : ElementType} {width : Nat} (h : t.byteWidth = some width) :
    0 < width := by
  cases t <;> simp [byteWidth] at h <;> omega

end ElementType

end OnnxCorpus
