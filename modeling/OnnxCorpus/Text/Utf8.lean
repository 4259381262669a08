/-!
# Texts as bytes

A text and its UTF-8 bytes determine each other (`ofUtf8?_eq_some_iff`). For bytes that spell no
text, `Utf8Fault.locate` finds where the first ill-formed sequence starts, and how many of its
bytes could still have been part of a character.
-/

namespace OnnxCorpus

/-- The UTF-8 bytes of a text. -/
def utf8 (text : String) : List UInt8 := text.toByteArray.data.toList

/-- The text that bytes spell in UTF-8. -/
def ofUtf8? (bytes : List UInt8) : Option String := String.fromUTF8? ⟨bytes.toArray⟩

@[simp] theorem ofUtf8?_utf8 (text : String) : ofUtf8? (utf8 text) = some text := by
  have valid : (⟨(utf8 text).toArray⟩ : ByteArray).IsValidUTF8 := by
    simpa [utf8] using text.isValidUTF8
  rw [ofUtf8?, String.fromUTF8?, dif_pos valid, Option.some.injEq, ← String.toByteArray_inj]
  simp [String.fromUTF8, utf8]

/-- Bytes spell a text exactly when they are its UTF-8 bytes. -/
theorem ofUtf8?_eq_some_iff {bytes : List UInt8} {text : String} :
    ofUtf8? bytes = some text ↔ bytes = utf8 text := by
  constructor
  · intro h
    rw [ofUtf8?, String.fromUTF8?] at h
    split at h
    · simp only [Option.some.injEq] at h
      subst h
      simp [String.fromUTF8, utf8]
    · simp at h
  · rintro rfl
    exact ofUtf8?_utf8 text

theorem utf8_injective {s t : String} (h : utf8 s = utf8 t) : s = t := by
  simpa [h] using (ofUtf8?_utf8 s).symm

/-- Why bytes spell no text: a sequence that no byte can mend, or one that ends too early. -/
inductive Utf8Fault where
  | invalid (length index : Nat)
  | incomplete (index : Nat)
deriving DecidableEq

namespace Utf8Fault

/-- The text of a fault. -/
def message : Utf8Fault → String
  | invalid length index => s!"invalid utf-8 sequence of {length} bytes from index {index}"
  | incomplete index => s!"incomplete utf-8 byte sequence from index {index}"

/-- The ranges of the bytes that follow the first byte of a character. -/
def followers? (first : UInt8) : Option (List (UInt8 × UInt8)) :=
  let any : UInt8 × UInt8 := (0x80, 0xbf)
  if first < 0x80 then some []
  else if first < 0xc2 then none
  else if first < 0xe0 then some [any]
  else if first = 0xe0 then some [(0xa0, 0xbf), any]
  else if first = 0xed then some [(0x80, 0x9f), any]
  else if first < 0xf0 then some [any, any]
  else if first = 0xf0 then some [(0x90, 0xbf), any, any]
  else if first < 0xf4 then some [any, any, any]
  else if first = 0xf4 then some [(0x80, 0x8f), any, any]
  else none

/-- The first fault of bytes, of which `taken` are read of the character at `index`, which still
needs bytes in the ranges `expected`. -/
def locateFrom (expected : List (UInt8 × UInt8)) (taken index : Nat) :
    List UInt8 → Option Utf8Fault
  | [] => if expected.isEmpty then none else some (incomplete index)
  | b :: rest =>
    match expected with
    | [] =>
      match followers? b with
      | some ranges => locateFrom ranges 1 (index + taken) rest
      | none => some (invalid 1 (index + taken))
    | (first, last) :: ranges =>
      if first ≤ b ∧ b ≤ last then locateFrom ranges (taken + 1) index rest
      else some (invalid taken index)

/-- The first fault of bytes. -/
def locate (bytes : List UInt8) : Option Utf8Fault := locateFrom [] 0 0 bytes

end Utf8Fault

end OnnxCorpus
