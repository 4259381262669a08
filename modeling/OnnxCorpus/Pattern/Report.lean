import OnnxCorpus.Pattern.Defect
import OnnxCorpus.Text.Parts

/-!
# Reports on patterns

A report shows the pattern line by line with marks below the places of a defect, and then says what
is wrong. A pattern of several lines has its lines numbered and stands between two rules.
-/

namespace OnnxCorpus.Pattern

/-- A line without the carriage return at its end. -/
def dropReturn (line : List Char) : List Char :=
  if line.getLast? = some '\r' then line.dropLast else line

/-- The lines of a text. Nothing after the last line break is no line. -/
def lines (text : List Char) : List (List Char) :=
  let all := Text.pieces '\n' text
  let last := all.getLast?.getD []
  all.dropLast.map dropReturn ++ if last.isEmpty then [] else [last]

/-- The width of the line numbers of a text, which a text of one line does without. -/
def numberWidth (text : List Char) : Nat :=
  let count := (Text.pieces '\n' text).length
  if count ≤ 1 then 0 else (toString count).length

/-- A line number, right-aligned, or a blank margin where lines have none. -/
def margin (width number : Nat) : String :=
  if width = 0 then "    "
  else
    let digits := toString number
    String.ofList (List.replicate (width - digits.length) ' ') ++ digits ++ ": "

/-- The places of a defect, in the order of the text. -/
def Defect.spans (d : Defect) : List Span := d.earlier.toList ++ [d.span]

/-- Marks below the places on one line, at least one for each. -/
def underline (spans : List Span) : List Char :=
  spans.foldl (fun marks s => marks ++ List.replicate (s.start.column - 1 - marks.length) ' ' ++
    List.replicate (max 1 (s.stop.column - s.start.column)) '^') []

/-- A numbered line with the marks below it. -/
def markedLine (width : Nat) (spans : List Span) (number : Nat) (line : List Char) : String :=
  let here := spans.filter fun s => s.start.line = number ∧ s.stop.line = number
  let marks :=
    if here.isEmpty then ""
    else String.ofList (List.replicate (margin width number).length ' ' ++ underline here) ++ "\n"
  margin width number ++ String.ofList line ++ "\n" ++ marks

/-- The lines of a text with the marks below them. -/
def markedText (spans : List Span) (text : List Char) : String :=
  String.join ((lines text).mapIdx fun i line => markedLine (numberWidth text) spans (i + 1) line)

/-- A line about a place that takes several lines. -/
def Span.note (s : Span) : String :=
  s!"on line {s.start.line} (column {s.start.column}) through line {s.stop.line} " ++
    s!"(column {s.stop.column - 1})\n"

/-- The rule above and below a pattern of several lines. -/
def rule : String := String.ofList (List.replicate 79 '~') ++ "\n"

/-- A defect as it is reported. -/
def Defect.report (d : Defect) (text : String) : String :=
  let marked := markedText d.spans text.toList
  let notes := (d.spans.filter fun s => s.start.line ≠ s.stop.line).map Span.note
  "regex parse error:\n" ++
    (if '\n' ∈ text.toList then rule ++ marked ++ rule ++ String.join notes else marked) ++
    "error: " ++ d.flaw.message

end OnnxCorpus.Pattern
