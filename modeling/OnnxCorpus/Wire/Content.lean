import OnnxCorpus.Wire.Field

/-!
# The content of a message

What the fields of a message say, whatever their order. A single scalar, text or byte string is
that of its last field. Repeated values are collected in order, packed or not. A single message is
made of the fields of all its occurrences, so that later ones complete earlier ones.
-/

namespace OnnxCorpus.Wire

namespace Scalar

/-- The number of a scalar of variable width. -/
def varint? : Scalar → Option UInt64
  | varint n => some n
  | _ => none

/-- The number of a scalar of four bytes. -/
def fixed32? : Scalar → Option UInt32
  | fixed32 n => some n
  | _ => none

/-- The number of a scalar of eight bytes. -/
def fixed64? : Scalar → Option UInt64
  | fixed64 n => some n
  | _ => none

end Scalar

namespace Field

/-- The scalars of a field of a number. -/
def scalarsOf (n : Nat) : Field → List Scalar
  | scalar k value => if k = n then [value] else []
  | packed k values => if k = n then values else []
  | _ => []

/-- The byte string of a field of a number. -/
def bytesOf (n : Nat) : Field → Option (List UInt8)
  | bytes k value => if k = n then some value else none
  | _ => none

/-- The text of a field of a number. -/
def textOf (n : Nat) : Field → Option String
  | text k value => if k = n then some value else none
  | _ => none

/-- The fields of the message that a field of a number holds. -/
def messageOf (n : Nat) : Field → Option (List Field)
  | message k fields => if k = n then some fields else none
  | _ => none

end Field

namespace Content

/-- The scalars of all fields of a number. -/
def scalars (n : Nat) (fields : List Field) : List Scalar :=
  fields.flatMap (Field.scalarsOf n)

/-- The scalars of variable width of all fields of a number. -/
def varints (n : Nat) (fields : List Field) : List UInt64 :=
  (scalars n fields).filterMap Scalar.varint?

/-- The scalars of four bytes of all fields of a number. -/
def fixed32s (n : Nat) (fields : List Field) : List UInt32 :=
  (scalars n fields).filterMap Scalar.fixed32?

/-- The scalars of eight bytes of all fields of a number. -/
def fixed64s (n : Nat) (fields : List Field) : List UInt64 :=
  (scalars n fields).filterMap Scalar.fixed64?

/-- The scalar of variable width of a field, that of its last occurrence. -/
def varint? (n : Nat) (fields : List Field) : Option UInt64 := (varints n fields).getLast?

/-- The scalar of four bytes of a field, that of its last occurrence. -/
def fixed32? (n : Nat) (fields : List Field) : Option UInt32 := (fixed32s n fields).getLast?

/-- What an accessor finds in the fields of a number, in their order. -/
def collect {α : Type} (accessor : Nat → Field → Option α) (n : Nat) (fields : List Field) :
    List α :=
  fields.filterMap (accessor n)

/-- The byte strings of all fields of a number. -/
abbrev byteStrings (n : Nat) (fields : List Field) : List (List UInt8) :=
  collect Field.bytesOf n fields

/-- The texts of all fields of a number. -/
abbrev texts (n : Nat) (fields : List Field) : List String :=
  collect Field.textOf n fields

/-- The messages that all fields of a number hold, each with its fields. -/
abbrev messages (n : Nat) (fields : List Field) : List (List Field) :=
  collect Field.messageOf n fields

/-- The byte string of a field, that of its last occurrence. -/
def bytes? (n : Nat) (fields : List Field) : Option (List UInt8) := (byteStrings n fields).getLast?

/-- The text of a field, that of its last occurrence. -/
def text? (n : Nat) (fields : List Field) : Option String := (texts n fields).getLast?

/-- The text of a field, the empty text standing for an absent one. -/
def text (n : Nat) (fields : List Field) : String := (text? n fields).getD ""

/-- The fields of a single message, of all its occurrences together. -/
def message? (n : Nat) (fields : List Field) : Option (List Field) :=
  match messages n fields with
  | [] => none
  | occurrences => some occurrences.flatten

/-! ### Fields one after another -/

section

variable {α β : Type} (accessor : Nat → Field → Option α) (n : Nat) (f : Field)
  (fields others : List Field) (xs : List β) (g : β → Field)

@[simp] theorem scalars_nil : scalars n [] = [] := rfl

@[simp] theorem scalars_cons : scalars n (f :: fields) = f.scalarsOf n ++ scalars n fields := rfl

@[simp] theorem scalars_append :
    scalars n (fields ++ others) = scalars n fields ++ scalars n others :=
  List.flatMap_append

theorem scalars_map : scalars n (xs.map g) = xs.flatMap fun x => (g x).scalarsOf n := by
  rw [scalars, List.flatMap_map]

@[simp] theorem collect_nil : collect accessor n [] = [] := rfl

@[simp] theorem collect_cons :
    collect accessor n (f :: fields) = (accessor n f).toList ++ collect accessor n fields := by
  rw [collect, List.filterMap_cons]
  cases accessor n f <;> rfl

@[simp] theorem collect_append :
    collect accessor n (fields ++ others) =
      collect accessor n fields ++ collect accessor n others :=
  List.filterMap_append

theorem collect_map :
    collect accessor n (xs.map g) = xs.filterMap fun x => accessor n (g x) := by
  rw [collect, List.filterMap_map]
  rfl

end

end Content

end OnnxCorpus.Wire
