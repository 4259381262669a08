import OnnxCorpus.Pattern.Defect

/-!
# What patterns need

Each part of a pattern needs something of its reader, under the switches that are set where it
stands. No tables of Unicode properties, words or letter case are at hand, so a part that needs one
is a flaw, and so is a part that would match bytes which are no text.
-/

namespace OnnxCorpus.Pattern

/-- The switches that decide how a part of a pattern is read. -/
structure Mode where
  /-- Blanks and comments are skipped. -/
  extended : Bool := false
  ignoreCase : Bool := false
  unicode : Bool := true
deriving DecidableEq

/-- The mode after a list of flags. Those after a dash are switched off. -/
def Mode.apply (m : Mode) (flags : List Char) : Mode :=
  let on := flags.takeWhile (· ≠ '-')
  let value (flag : Char) (old : Bool) : Bool :=
    if flag ∈ on then true else if flag ∈ flags then false else old
  ⟨value 'x' m.extended, value 'i' m.ignoreCase, value 'u' m.unicode⟩

/-- A part of a pattern. A character may be given as a byte, by two digits. -/
inductive Need where
  | literal (c : Char) (isByte : Bool)
  /-- A character in a set. -/
  | member (c : Char) (isByte : Bool)
  | anyCharacter
  /-- Digits, blanks or the characters of words. -/
  | wordClass (negated : Bool)
  | property
  /-- A set with a name. -/
  | named (negated : Bool)
  /-- One side of an operator on sets, with or without characters of its own. -/
  | operand (hasMembers : Bool)
  /-- A set, with or without characters of its own. -/
  | set (negated hasMembers : Bool)
  | wordBoundary
deriving DecidableEq

/-- What is wrong with a part in a mode. -/
def Need.flaw? (m : Mode) : Need → Option Flaw
  | literal c isByte =>
    if m.unicode then (if m.ignoreCase then some .caseTable else none)
    else if isByte ∧ 0x80 ≤ c.toNat then some .notText
    else none
  | member c isByte =>
    if m.unicode ∨ c.toNat < 0x80 then none
    else if isByte then some .notText
    else some .unicodeOff
  | anyCharacter => if m.unicode then none else some .notText
  | wordClass negated =>
    if m.unicode then some .wordTable else if negated then some .notText else none
  | property => if m.unicode then some .propertyTable else some .unicodeOff
  | named negated =>
    if m.unicode then (if m.ignoreCase then some .caseTable else none)
    else if negated then some .notText
    else none
  | operand hasMembers => if m.unicode ∧ m.ignoreCase ∧ hasMembers then some .caseTable else none
  | set negated hasMembers =>
    if m.unicode then (if m.ignoreCase ∧ hasMembers then some .caseTable else none)
    else if negated then some .notText
    else none
  | wordBoundary => none

/-- A part of a pattern with its place and its mode. -/
structure Part where
  need : Need
  span : Span
  mode : Mode
deriving DecidableEq

/-- What is wrong with a part. -/
def Part.defect? (p : Part) : Option Defect :=
  (p.need.flaw? p.mode).map fun flaw => ⟨flaw, p.span, none⟩

/-- Whether a part is a boundary between Unicode words. -/
def Part.isUnicodeBoundary (p : Part) : Bool := p.need = .wordBoundary ∧ p.mode.unicode

end OnnxCorpus.Pattern
