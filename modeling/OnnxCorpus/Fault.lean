/-!
# Ways to end without a value

A step either reports an error that its caller can act on, or crashes with a text: arithmetic that
leaves its range, or a builder that gives up. A crash is not an error, so the two stay apart.
-/

namespace OnnxCorpus

/-- Why there is no value: an error that was reported, or a crash and its text. -/
inductive Fault (ε : Type) where
  | error (cause : ε)
  | crash (text : String)
deriving DecidableEq

namespace Fault

/-- The same fault with its error read as a cause of another kind. -/
def map {ε δ : Type} (f : ε → δ) : Fault ε → Fault δ
  | error cause => error (f cause)
  | crash text => crash text

/-- The text of the crash when a product leaves 64 bits. -/
def overflow : String := "attempt to multiply with overflow"

/-- The text of the crash when a text is cut inside a character. -/
def brokenCharacter : String := "byte index is not a char boundary"

end Fault

end OnnxCorpus
