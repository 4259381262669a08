import OnnxCorpus.Pattern.Escape

/-!
# Sets of characters in patterns

A set stands between square brackets. It holds characters, ranges, classes, named sets, other sets,
and operators between sides that are read from left to right.
-/

namespace OnnxCorpus.Pattern

/-- One side of an operator on sets: its place if it holds anything, and whether it holds
characters of its own. -/
structure Side where
  span : Option Span := none
  hasMembers : Bool := false
deriving DecidableEq

/-- A side with one more item. -/
def Side.add (s : Side) (span : Span) (isMember : Bool) : Side :=
  let span := match s.span with
    | none => span
    | some before => ⟨before.start, span.stop⟩
  ⟨some span, s.hasMembers || isMember⟩

/-- A set that is not closed yet. -/
structure OpenSet where
  /-- The opening bracket with what belongs to it. -/
  opening : Span
  negated : Bool
  /-- What stands before the last operator. -/
  left : Option Side := none
  right : Side := {}
deriving DecidableEq

/-- A set with one more item after its last operator. -/
def OpenSet.add (s : OpenSet) (span : Span) (isMember : Bool) : OpenSet :=
  { s with right := s.right.add span isMember }

/-- The names of sets between brackets and colons. -/
def setNames : List String :=
  ["alnum", "alpha", "ascii", "blank", "cntrl", "digit", "graph", "lower", "print", "punct",
   "space", "upper", "word", "xdigit"]

/-- Whether a named set starts a text, and if so whether it is negated and how long it is. -/
def namedSet? (text : List Char) : Option (Bool × Nat) :=
  match text with
  | '[' :: ':' :: rest =>
    let negated := rest.head? = some '^'
    let inner := if negated then rest.tail else rest
    let name := inner.takeWhile (· ≠ ':')
    if String.ofList name ∈ setNames ∧ [':', ']'].isPrefixOf (inner.dropWhile (· ≠ ':')) then
      some (negated, name.length + (if negated then 5 else 4))
    else none
  | _ => none

namespace Read

/-- Dashes at the start of a set, which stand for themselves. -/
def leadingDashes (start : Position) (side : Side) : Nat → Read Side
  | 0 => return side
  | n + 1 => do
    if (← next?) = some '-' then
      let side := side.add (← nextSpan) true
      if (← step).isNone then fail .openSet (.empty start)
      leadingDashes start side n
    else return side

/-- The opening of the set at the bracket here. A closing bracket right after it stands for
itself. -/
def setOpening : Read OpenSet := do
  let start ← place
  if (← step).isNone then fail .openSet ⟨start, ← place⟩
  let negated := (← next?) = some '^'
  if negated then
    if (← step).isNone then fail .openSet ⟨start, ← place⟩
  let mut side ← leadingDashes start {} (← get).rest.length
  if side.span.isNone ∧ (← next?) = some ']' then
    side := side.add (← nextSpan) true
    if (← step).isNone then fail .openSet ⟨start, ← place⟩
  return { opening := ⟨start, ← place⟩, negated, right := side }

/-- One item of a set, before it is known whether it starts a range. -/
def setItem : Read (Item × Span) := do
  match ← next? with
  | some '\\' => escape
  | some c =>
    let span ← nextSpan
    discard advance
    return (.character c false, span)
  | none => fail .openSet (.empty (← place))

/-- An item of a set that stands alone, with whether it is a character. -/
def singleItem (item : Item) (span : Span) : Read (Span × Bool) := do
  match item with
  | .character c isByte =>
    keep (.member c isByte) span
    return (span, true)
  | .wordClass negated =>
    keep (.wordClass negated) span
    return (span, false)
  | .property =>
    keep .property span
    return (span, false)
  | .wordBoundary | .anchor => fail .setEscape span

/-- A range between two items, which have to be characters in order. -/
def rangeItem (first last : Item × Span) : Read (Span × Bool) := do
  let span : Span := ⟨first.2.start, last.2.stop⟩
  match first.1, last.1 with
  | .character a isByte, .character b isByte' =>
    if a ≤ b then
      keep (.member a isByte) first.2
      keep (.member b isByte') last.2
      return (span, true)
    else fail .rangeOrder span
  | .character _ _, _ => fail .rangeBound last.2
  | _, _ => fail .rangeBound first.2

/-- An item of the set with an opening, or a range. A dash before a closing bracket or another dash
makes no range. -/
def setItemOrRange (opening : Span) : Read (Span × Bool) := do
  let first ← setItem
  skip
  match ← next? with
  | none => fail .openSet opening
  | some c =>
    let second := (← get).second?
    if c ≠ '-' ∨ second = some ']' ∨ second = some '-' then singleItem first.1 first.2
    else
      if (← step).isNone then fail .openSet opening
      let last ← setItem
      rangeItem first last

/-- Keeps one side of an operator, unless it is empty. -/
def keepSide (side : Side) : Read Unit := do
  match side.span with
  | none => return
  | some span => keep (.operand side.hasMembers) span

/-- Ends the right side of an operator, if there is one, and gives what stands so far. What an
operator gives has no characters of its own. -/
def joinSides (s : OpenSet) : Read Side := do
  match s.left with
  | none => return s.right
  | some left =>
    keepSide s.right
    keepSide left
    return {}

/-- What is left of a set, inside the sets around it, for at most a number of steps. -/
def setItems : Nat → OpenSet → List OpenSet → Read Unit
  | 0, _, _ => return
  | n + 1, s, outer => do
    skip
    match (← get).rest with
    | [] => fail .openSet s.opening
    | '[' :: _ =>
      match namedSet? (← get).rest with
      | some (negated, length) =>
        let start ← place
        length.forM fun _ _ => discard advance
        let span : Span := ⟨start, ← place⟩
        keep (.named negated) span
        setItems n (s.add span false) outer
      | none =>
        let inner ← setOpening
        setItems n inner (s :: outer)
    | ']' :: _ =>
      let whole ← joinSides s
      discard advance
      let span : Span := ⟨s.opening.start, ← place⟩
      keep (.set s.negated whole.hasMembers) span
      match outer with
      | [] => return
      | around :: outer => setItems n (around.add span false) outer
    | c :: rest =>
      if (c = '&' ∨ c = '-' ∨ c = '~') ∧ rest.head? = some c then
        let left ← joinSides s
        discard advance
        discard advance
        setItems n { s with left := some left, right := {} } outer
      else
        let (span, isMember) ← setItemOrRange s.opening
        setItems n (s.add span isMember) outer

/-- The set at the bracket here. -/
def bracketSet : Read Unit := do
  let opening ← setOpening
  setItems (← get).rest.length.succ opening []

end Read

end OnnxCorpus.Pattern
