import OnnxCorpus.Pattern.Need
import OnnxCorpus.Text.Character

/-!
# Reading patterns character by character

A reader stands at a place in a pattern. It moves by one character, or by one character and the
blanks and comments after it where the mode skips them, and keeps the parts it has read.
-/

namespace OnnxCorpus.Pattern

/-- A reader: what is left to read, the place, the mode, the names given to groups, and the parts
read so far. -/
structure Reader where
  rest : List Char
  place : Position := {}
  mode : Mode := {}
  names : List (List Char × Span) := []
  parts : List Part := []

/-- A step of reading, which may find a defect. -/
abbrev Read := StateT Reader (Except Defect)

/-- Blanks and comments dropped from a text. A comment runs to the end of its line. -/
def dropComments (inComment : Bool) (p : Position) : List Char → List Char × Position
  | [] => ([], p)
  | c :: rest =>
    if inComment then dropComments (c ≠ '\n') (p.after c) rest
    else if c = '#' then dropComments true (p.after c) rest
    else if Text.isBlank c then dropComments false (p.after c) rest
    else (c :: rest, p)

namespace Reader

/-- One character further. -/
def advance (r : Reader) : Reader :=
  match r.rest with
  | [] => r
  | c :: rest => { r with rest, place := r.place.after c }

/-- Past the blanks and comments, where they are skipped. -/
def skip (r : Reader) : Reader :=
  if r.mode.extended then
    let (rest, place) := dropComments false r.place r.rest
    { r with rest, place }
  else r

/-- The span of the next character. -/
def nextSpan (r : Reader) : Span :=
  match r.rest with
  | [] => .empty r.place
  | c :: _ => ⟨r.place, r.place.after c⟩

/-- The character after the next one, past blanks and the sign of a comment where they are
skipped. -/
def second? (r : Reader) : Option Char :=
  let after := r.rest.tail
  if r.mode.extended then
    match Text.dropBlanks after with
    | '#' :: comment => (Text.dropBlanks comment).head?
    | other => other.head?
  else after.head?

end Reader

namespace Read

/-- Fails at a place. -/
def fail {α : Type} (flaw : Flaw) (span : Span) : Read α := throw ⟨flaw, span, none⟩

/-- Fails at a place, for a clash with an earlier one. -/
def clash {α : Type} (flaw : Flaw) (span earlier : Span) : Read α :=
  throw ⟨flaw, span, some earlier⟩

/-- The next character. -/
def next? : Read (Option Char) := return (← get).rest.head?

/-- The place of the next character. -/
def place : Read Position := return (← get).place

/-- What the next character spans. -/
def nextSpan : Read Span := return (← get).nextSpan

/-- Moves on past blanks and comments where they are skipped. -/
def skip : Read Unit := modify Reader.skip

/-- Moves on by one character and gives the one after it. -/
def advance : Read (Option Char) := do
  modify Reader.advance
  next?

/-- Moves on by one character and what is skipped after it, and gives the one that follows. -/
def step : Read (Option Char) := do
  modify fun r => r.advance.skip
  next?

/-- Moves on while a condition holds, for at most a number of characters. -/
def stepUpTo (p : Char → Bool) : Nat → Read Unit
  | 0 => return
  | n + 1 => do
    match ← next? with
    | some c => if p c then do discard step; stepUpTo p n else return
    | none => return

/-- Moves on while a condition holds. -/
def stepWhile (p : Char → Bool) : Read Unit := do stepUpTo p (← get).rest.length

/-- Moves past a text, if it stands here. -/
def accept (text : List Char) : Read Bool := do
  if text.isPrefixOf (← get).rest then
    text.forM fun _ => modify Reader.advance
    return true
  else return false

/-- Keeps a part under the mode of its place. -/
def keep (need : Need) (span : Span) : Read Unit :=
  modify fun r => { r with parts := r.parts ++ [⟨need, span, r.mode⟩] }

end Read

end OnnxCorpus.Pattern
