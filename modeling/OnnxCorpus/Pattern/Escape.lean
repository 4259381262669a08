import OnnxCorpus.Pattern.Reader

/-!
# Escapes in patterns

An escape starts with a backslash. It names a character by its sign, its letter or its number, a
class of characters, or a condition on the place. A pattern holds no closing brace, so an escape
that opens a brace is never finished.
-/

namespace OnnxCorpus.Pattern

/-- What one item of a pattern or of a set is. -/
inductive Item where
  | character (c : Char) (isByte : Bool)
  | wordClass (negated : Bool)
  | property
  | wordBoundary
  /-- The start or the end of the text. -/
  | anchor
deriving DecidableEq

/-- The part that an item outside sets is. An anchor needs nothing. -/
def Item.need? : Item → Option Need
  | character c isByte => some (.literal c isByte)
  | wordClass negated => some (.wordClass negated)
  | property => some .property
  | wordBoundary => some .wordBoundary
  | anchor => none

/-- Whether a character has a meaning of its own in patterns. -/
def isSign (c : Char) : Bool := c ∈ "\\.+*?()|[]\x7b\x7d^$#&-~".toList

/-- Whether a character stands for itself after a backslash. -/
def isEscapable (c : Char) : Bool :=
  isSign c || (c.toNat < 0x80 && !c.isAlphanum && c != '<' && c != '>')

/-- The control character with a letter of its own. -/
def control? : Char → Option Char
  | 'a' => some '\x07'
  | 'f' => some '\x0c'
  | 't' => some '\t'
  | 'n' => some '\n'
  | 'r' => some '\r'
  | 'v' => some '\x0b'
  | _ => none

/-- The value of a digit in base sixteen. -/
def hexValue? (c : Char) : Option Nat :=
  if c.isDigit then some (c.toNat - '0'.toNat)
  else if 'a' ≤ c ∧ c ≤ 'f' then some (10 + c.toNat - 'a'.toNat)
  else if 'A' ≤ c ∧ c ≤ 'F' then some (10 + c.toNat - 'A'.toNat)
  else none

namespace Read

/-- The number of some digits in base sixteen, after the value of those before. -/
def hexDigits (value : Nat) : Nat → Read Nat
  | 0 => return value
  | n + 1 => do
    match ← next? with
    | none => fail .openEscape (.empty (← place))
    | some c =>
      match hexValue? c with
      | none => fail .hexDigit (← nextSpan)
      | some digit =>
        discard step
        hexDigits (16 * value + digit) n

/-- A character by its number, after the letter that fixes how many digits it has. -/
def hexEscape (start : Position) (digits : Nat) : Read (Item × Span) := do
  match ← step with
  | none => fail .openEscape (.empty (← place))
  | some '\x7b' =>
    let brace ← place
    discard step
    stepWhile fun c => (hexValue? c).isSome
    match ← next? with
    | none => fail .openEscape ⟨brace, ← place⟩
    | some _ => fail .hexDigit (← nextSpan)
  | some _ =>
    let first ← place
    let value ← hexDigits 0 digits
    let stop ← place
    if value.isValidChar then return (.character (Char.ofNat value) (digits = 2), ⟨start, stop⟩)
    else fail .hexCharacter ⟨first, stop⟩

/-- A Unicode property of one letter. -/
def propertyEscape (start : Position) : Read (Item × Span) := do
  match ← step with
  | none => fail .openEscape (.empty (← place))
  | some '\\' => fail .propertyName (← nextSpan)
  | some '\x7b' =>
    stepWhile fun _ => true
    fail .openEscape (.empty (← place))
  | some _ =>
    discard step
    return (.property, ⟨start, ← place⟩)

/-- Whether a character may stand in the name of a boundary. -/
def isBoundaryChar (c : Char) : Bool := c.isAlpha || c == '-'

/-- Fails if the name of a boundary starts in the brace here. Otherwise the brace belongs to a
count of repetitions. -/
def refuseBoundaryName (start : Position) : Read Unit := do
  let brace ← get
  match ← step with
  | none => fail .openBoundaryOrCount ⟨start, ← place⟩
  | some c =>
    if isBoundaryChar c then
      stepWhile isBoundaryChar
      fail .openBoundary ⟨brace.place, ← place⟩
    else MonadState.set brace

/-- An escape of one letter or sign. -/
def shortEscape (start : Position) (c : Char) : Read (Item × Span) := do
  let following ← advance
  let span : Span := ⟨start, ← place⟩
  if isEscapable c then return (.character c false, span)
  match control? c with
  | some control => return (.character control false, span)
  | none =>
    if c = 'A' ∨ c = 'z' then return (.anchor, span)
    else if c = 'B' ∨ c = '<' ∨ c = '>' then return (.wordBoundary, span)
    else if c = 'b' then
      if following = some '\x7b' then refuseBoundaryName start
      return (.wordBoundary, span)
    else fail .unknownEscape span

/-- The escape at the backslash here. -/
def escape : Read (Item × Span) := do
  let start ← place
  match ← advance with
  | none => fail .openEscape ⟨start, ← place⟩
  | some c =>
    if c.isDigit then fail .backreference ⟨start, (← nextSpan).stop⟩
    else if c = 'x' then hexEscape start 2
    else if c = 'u' then hexEscape start 4
    else if c = 'U' then hexEscape start 8
    else if c = 'p' ∨ c = 'P' then propertyEscape start
    else if c ∈ ['d', 's', 'w'] then
      discard advance
      return (.wordClass false, ⟨start, ← place⟩)
    else if c ∈ ['D', 'S', 'W'] then
      discard advance
      return (.wordClass true, ⟨start, ← place⟩)
    else shortEscape start c

end Read

end OnnxCorpus.Pattern
