import OnnxCorpus.Pattern.Brackets
import OnnxCorpus.Pattern.Group
import OnnxCorpus.Pattern.Report

/-!
# Checking patterns

A pattern is the value that a field is compared with. It is a sequence of items with repetitions,
groups and alternatives, and holds no closing brace, comma or equals sign, as those end the value.
So a count of repetitions is never finished. A pattern is sound if it reads to its end, all that
its parts need is at hand, and no part is a boundary between Unicode words.
-/

namespace OnnxCorpus.Pattern

/-- A group that is not closed yet, with the mode outside it. -/
structure OpenGroup where
  opening : Span
  outside : Mode
deriving DecidableEq

namespace Read

/-- The number of some digits, after the value of those before. -/
def decimal (value : Nat) : Nat → Read Nat
  | 0 => return value
  | n + 1 => do
    match ← next? with
    | some c =>
      if c.isDigit then
        discard step
        decimal (10 * value + (c.toNat - '0'.toNat)) n
      else return value
    | none => return value

/-- Refuses the count of repetitions at the brace here. -/
def refuseCount : Read Unit := do
  let start ← place
  if (← step).isNone then fail .openCount ⟨start, ← place⟩
  stepWhile Text.isBlank
  let first ← place
  let count ← decimal 0 (← get).rest.length
  let digits : Span := ⟨first, ← place⟩
  stepWhile Text.isBlank
  if (← next?).isNone then fail .openCount ⟨start, ← place⟩
  if digits.start = digits.stop then fail .emptyCount digits
  if UInt32.size ≤ count then fail .hugeCount digits
  fail .openCount ⟨start, ← place⟩

/-- A repetition of the item before it, which may be a lazy one. -/
def repetition (repeatable : Bool) : Read Unit := do
  if ¬repeatable then fail .nothingRepeated (.empty (← place))
  if (← next?) = some '\x7b' then refuseCount
  else if (← advance) = some '?' then discard advance

/-- Reads on in another mode. -/
def setMode (mode : Mode) : Read Unit := modify fun r => { r with mode }

/-- One character that is no operator. -/
def single (c : Char) : Read Unit := do
  let span ← nextSpan
  discard advance
  match c with
  | '.' => keep .anyCharacter span
  | '^' | '$' => return
  | _ => keep (.literal c false) span

/-- What is left of a pattern inside some open groups, for at most a number of steps. A repetition
needs an item before it in its branch of alternatives. -/
def items : Nat → List OpenGroup → (repeatable : Bool) → Read Unit
  | 0, _, _ => return
  | n + 1, groups, repeatable => do
    skip
    match ← next? with
    | none =>
      match groups with
      | [] => return
      | g :: _ => fail .openGroup g.opening
    | some '(' =>
      let here ← nextSpan
      let outside := (← get).mode
      match ← opening with
      | .flags flags =>
        setMode (outside.apply flags)
        items n groups false
      | .group flags =>
        setMode (outside.apply flags)
        items n (⟨here, outside⟩ :: groups) false
    | some ')' =>
      match groups with
      | [] => fail .strayClosing (← nextSpan)
      | g :: groups =>
        discard advance
        setMode g.outside
        items n groups true
    | some '|' =>
      discard advance
      items n groups false
    | some '[' =>
      bracketSet
      items n groups true
    | some '\\' =>
      let (item, span) ← escape
      item.need?.forM (keep · span)
      items n groups true
    | some c =>
      if c ∈ ['?', '*', '+', '\x7b'] then repetition repeatable
      else single c
      items n groups true

end Read

/-- The parts of a pattern, in the order of the text. -/
def parts (text : String) : Except Defect (List Part) := do
  let (_, r) ← (Read.items text.length.succ [] false).run { rest := text.toList }
  return r.parts

/-- Why a pattern is refused. -/
inductive Refusal where
  | defect (d : Defect) (text : String)
  | unicodeBoundary
deriving DecidableEq

/-- Whether a pattern is sound. A defect in reading comes before a need that is not met. -/
def check (text : String) : Except Refusal Unit :=
  match parts text with
  | .error d => .error (.defect d text)
  | .ok parts =>
    match parts.findSome? Part.defect? with
    | some d => .error (.defect d text)
    | none => if parts.any Part.isUnicodeBoundary then .error .unicodeBoundary else .ok ()

/-- The text of a refusal. -/
def Refusal.message : Refusal → String
  | defect _ _ => "error building NFA"
  | unicodeBoundary =>
    "unsupported regex feature for DFAs: cannot build DFAs for regexes with Unicode word " ++
      "boundaries; switch to ASCII word boundaries, or heuristically enable Unicode word " ++
      "boundaries or use a different regex engine"

/-- The causes of a refusal, nearest first. -/
def Refusal.causes : Refusal → List String
  | defect d text => ["error parsing regex", d.report text]
  | unicodeBoundary => []

end OnnxCorpus.Pattern
