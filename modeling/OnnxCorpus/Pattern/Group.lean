import OnnxCorpus.Pattern.Reader
import OnnxCorpus.Text.Character

/-!
# Groups in patterns

A group may have a name or flags of its own. Flags between parentheses without a group count up to
the end of the group around them.
-/

namespace OnnxCorpus.Pattern

/-- What an opening parenthesis starts. -/
inductive Opening where
  /-- Flags for what is left of the group around them. -/
  | flags (flags : List Char)
  /-- A group with flags of its own. -/
  | group (flags : List Char)
deriving DecidableEq

/-- The letters of flags. -/
def isFlag (c : Char) : Bool := c ∈ ['i', 'm', 's', 'U', 'u', 'R', 'x']

/-- Whether a character may stand in the name of a group. -/
def isNameChar (first : Bool) (c : Char) : Bool :=
  if first then c == '_' || Text.isLetter c
  else c == '_' || c == '.' || c == '[' || c == ']' || Text.isLetterOrNumeric c

namespace Read

/-- The flags up to a colon or a closing parenthesis, for at most a number of characters. -/
def flagsAfter (seen : List (Char × Span)) : Nat → Read (List (Char × Span))
  | 0 => return seen
  | n + 1 => do
    match ← next? with
    | none | some ':' | some ')' => return seen
    | some c =>
      let span ← nextSpan
      if c ≠ '-' ∧ ¬isFlag c then fail .unknownFlag span
      match seen.lookup c with
      | some earlier => clash (if c = '-' then .repeatedNegation else .repeatedFlag) span earlier
      | none =>
        if (← advance).isNone then fail .missingFlag (.empty (← place))
        flagsAfter (seen ++ [(c, span)]) n

/-- Flags, the last of which is not a dash. -/
def flags : Read (List Char) := do
  let seen ← flagsAfter [] (← get).rest.length
  match seen.getLast? with
  | some ('-', span) => fail .danglingNegation span
  | _ => return seen.map Prod.fst

/-- The name of a group up to its closing angle, for at most a number of characters. -/
def nameAfter (name : List Char) : Nat → Read (List Char)
  | 0 => return name
  | n + 1 => do
    match ← next? with
    | none => fail .openName (.empty (← place))
    | some '>' => return name
    | some c =>
      if ¬isNameChar name.isEmpty c then fail .nameCharacter (← nextSpan)
      discard advance
      nameAfter (name ++ [c]) n

/-- The name of a group, which no other group has. -/
def groupName : Read Unit := do
  let start ← place
  let name ← nameAfter [] (← get).rest.length.succ
  let span : Span := ⟨start, ← place⟩
  discard advance
  if name.isEmpty then fail .emptyName (.empty start)
  match (← get).names.lookup name with
  | some earlier => clash .repeatedName span earlier
  | none => modify fun r => { r with names := r.names ++ [(name, span)] }

/-- Whether a look-around starts here. -/
def lookAround : Read Bool := do
  for sign in ["?=", "?!", "?<=", "?<!"] do
    if ← accept sign.toList then return true
  return false

/-- What the parenthesis here starts. Parentheses with no flags between them are a repetition of
nothing. -/
def opening : Read Opening := do
  let outer ← nextSpan
  modify fun r => r.advance.skip
  if ← lookAround then fail .lookAround ⟨outer.start, ← place⟩
  let inner ← place
  if (← accept ['?', 'P', '<']) || (← accept ['?', '<']) then
    groupName
    return .group []
  else if ← accept ['?'] then
    if (← next?).isNone then fail .openGroup outer
    let flags ← flags
    let ending ← next?
    discard advance
    if ending = some ':' then return .group flags
    else if flags.isEmpty then fail .nothingRepeated (.empty inner)
    else return .flags flags
  else return .group []

end Read

end OnnxCorpus.Pattern
