/-!
# Unread input

What is left of a file while it is read: the bytes, and how many there are.
-/

namespace OnnxCorpus.Wire

/-- The unread bytes of a file, with their number at hand. -/
structure Input where
  bytes : List UInt8
  size : Nat
  size_eq : size = bytes.length

namespace Input

/-- The input before anything is read. -/
def ofBytes (bytes : List UInt8) : Input := ⟨bytes, bytes.length, rfl⟩

/-- The next byte. -/
def next? : Input → Option (UInt8 × Input)
  | ⟨[], _, _⟩ => none
  | ⟨b :: rest, size, h⟩ => some (b, ⟨rest, size - 1, by simp [h]⟩)

/-- The next `n` bytes, if there are as many. -/
def take? (n : Nat) (input : Input) : Option (List UInt8 × Input) :=
  if n ≤ input.size then
    some (input.bytes.take n,
      ⟨input.bytes.drop n, input.size - n, by simp [input.size_eq]⟩)
  else none

@[ext] theorem ext {a b : Input} (h : a.bytes = b.bytes) : a = b := by
  obtain ⟨bytes, size, hs⟩ := a
  obtain ⟨bytes', size', hs'⟩ := b
  obtain rfl : bytes = bytes' := h
  simp [hs, hs']

@[simp] theorem bytes_ofBytes (bytes : List UInt8) : (ofBytes bytes).bytes = bytes := rfl

@[simp] theorem size_ofBytes (bytes : List UInt8) : (ofBytes bytes).size = bytes.length := rfl

@[simp] theorem next?_ofBytes_nil : (ofBytes []).next? = none := rfl

@[simp] theorem next?_ofBytes_cons (b : UInt8) (rest : List UInt8) :
    (ofBytes (b :: rest)).next? = some (b, ofBytes rest) := rfl

@[simp] theorem take?_ofBytes_append (bytes rest : List UInt8) :
    (ofBytes (bytes ++ rest)).take? bytes.length = some (bytes, ofBytes rest) := by
  have h : (⟨rest, (bytes ++ rest).length - bytes.length, by simp⟩ : Input) = ofBytes rest :=
    Input.ext rfl
  simp [take?, ofBytes] at h ⊢

end Input

end OnnxCorpus.Wire
