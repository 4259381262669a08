import OnnxCorpus.Wire.Field

/-!
# Schemas

A schema says which fields each type of message has. Fields of scalars are single or repeated,
which decides whether a packed list is accepted; the other fields may always repeat.
-/

namespace OnnxCorpus.Wire

/-- What a field holds, in messages of types `τ`. -/
inductive FieldKind (τ : Type) where
  | scalar (kind : ScalarKind)
  | scalars (kind : ScalarKind)
  | bytes
  | text
  | message (type : τ)

/-- A field as a schema declares it: the name it has in messages, and what it holds. -/
structure FieldSpec (τ : Type) where
  name : String
  kind : FieldKind τ

/-- The names of the message types and the fields of each, by number. -/
structure Schema (τ : Type) where
  name : τ → String
  field? : τ → Nat → Option (FieldSpec τ)

/-- The place of a field in messages. -/
def Schema.place {τ : Type} (schema : Schema τ) (type : τ) (spec : FieldSpec τ) : String :=
  schema.name type ++ "." ++ spec.name

end OnnxCorpus.Wire
