/-!
# Defects of patterns

What can be wrong with a pattern, and where in its text.
-/

namespace OnnxCorpus.Pattern

/-- A place between two characters of a text, by line and column from one. -/
structure Position where
  line : Nat := 1
  column : Nat := 1
deriving DecidableEq

/-- The place after a character. -/
def Position.after (p : Position) (c : Char) : Position :=
  if c = '\n' then ⟨p.line + 1, 1⟩ else ⟨p.line, p.column + 1⟩

/-- The text between two places. -/
structure Span where
  start : Position
  stop : Position
deriving DecidableEq

/-- The empty text at a place. -/
def Span.empty (p : Position) : Span := ⟨p, p⟩

/-- What is wrong with a pattern. -/
inductive Flaw where
  /-- A repetition with nothing before it. -/
  | nothingRepeated
  /-- A count of repetitions without its closing brace. -/
  | openCount
  /-- A count of repetitions without a number. -/
  | emptyCount
  /-- A count of repetitions past 32 bits. -/
  | hugeCount
  | openGroup
  | strayClosing
  /-- A condition on what stands before or after. -/
  | lookAround
  | openName
  | emptyName
  | nameCharacter
  | repeatedName
  | unknownFlag
  | repeatedFlag
  | repeatedNegation
  | danglingNegation
  | missingFlag
  | openEscape
  | unknownEscape
  | backreference
  | hexDigit
  /-- A number that is no character. -/
  | hexCharacter
  | propertyName
  /-- A brace after a word boundary that ends the pattern. -/
  | openBoundaryOrCount
  | openBoundary
  | openSet
  | setEscape
  | rangeBound
  | rangeOrder
  /-- A part that matches bytes which are no text. -/
  | notText
  /-- A part that needs Unicode where that is switched off. -/
  | unicodeOff
  | propertyTable
  | wordTable
  | caseTable
deriving DecidableEq

/-- The text of a flaw. -/
def Flaw.message : Flaw → String
  | nothingRepeated => "repetition operator missing expression"
  | openCount => "unclosed counted repetition"
  | emptyCount => "repetition quantifier expects a valid decimal"
  | hugeCount => "decimal literal invalid"
  | openGroup => "unclosed group"
  | strayClosing => "unopened group"
  | lookAround => "look-around, including look-ahead and look-behind, is not supported"
  | openName => "unclosed capture group name"
  | emptyName => "empty capture group name"
  | nameCharacter => "invalid capture group character"
  | repeatedName => "duplicate capture group name"
  | unknownFlag => "unrecognized flag"
  | repeatedFlag => "duplicate flag"
  | repeatedNegation => "flag negation operator repeated"
  | danglingNegation => "dangling flag negation operator"
  | missingFlag => "expected flag but got end of regex"
  | openEscape => "incomplete escape sequence, reached end of pattern prematurely"
  | unknownEscape => "unrecognized escape sequence"
  | backreference => "backreferences are not supported"
  | hexDigit => "invalid hexadecimal digit"
  | hexCharacter => "hexadecimal literal is not a Unicode scalar value"
  | propertyName => "invalid Unicode character class"
  | openBoundaryOrCount =>
    "found either the beginning of a special word boundary or a bounded repetition on a \\b " ++
      "with an opening brace, but no closing brace"
  | openBoundary =>
    "special word boundary assertion is either unclosed or contains an invalid character"
  | openSet => "unclosed character class"
  | setEscape => "invalid escape sequence found in character class"
  | rangeBound => "invalid range boundary, must be a literal"
  | rangeOrder => "invalid character class range, the start must be <= the end"
  | notText => "pattern can match invalid UTF-8"
  | unicodeOff => "Unicode not allowed here"
  | propertyTable => "Unicode property not found"
  | wordTable =>
    "Unicode-aware Perl class not found (make sure the unicode-perl feature is enabled)"
  | caseTable =>
    "Unicode-aware case insensitivity matching is not available " ++
      "(make sure the unicode-case feature is enabled)"

/-- A flaw with its place, and the earlier place that it clashes with. -/
structure Defect where
  flaw : Flaw
  span : Span
  earlier : Option Span := none
deriving DecidableEq

end OnnxCorpus.Pattern
