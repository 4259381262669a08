import OnnxCorpus.Fault
import OnnxCorpus.Pattern.Check
import OnnxCorpus.Text.Parts

/-!
# Log filters

A log filter is a list of directives between commas. A directive is a level, or the name of a
target, or a span between square brackets with or without a target before it, and a target or span
may have a level after it. A span may have a field between braces, and a field may have a value,
which is a number or a pattern.

Blanks around a directive are no part of what is read, but the places that are found in it are
counted in bytes from its first blank. So a part can start and end too early, and a cut that would
go through a character is a crash.
-/

namespace OnnxCorpus.CommandLine

/-- What is wrong with a log filter. -/
inductive FilterError where
  | directive
  | level
  | field (refusal : Pattern.Refusal)
deriving DecidableEq

/-- The text of a refusal. -/
def FilterError.message : FilterError → String
  | directive => "invalid filter directive"
  | level =>
    "error parsing level filter: expected one of \"off\", \"error\", \"warn\", \"info\", " ++
      "\"debug\", \"trace\", or a number 0-5"
  | field refusal => "invalid field filter: " ++ refusal.message

/-- The causes of an error, nearest first. -/
def FilterError.causes : FilterError → List String
  | directive => []
  | level => [FilterError.level.message]
  | field refusal => refusal.message :: refusal.causes

/-- Whether a text is a level, by number or by name in either case. -/
def isLevel (text : List Char) : Bool :=
  (Text.readCount? (String.ofList text)).any (· ≤ 5) ||
    String.ofList (text.map Char.toLower) ∈ ["off", "error", "warn", "info", "debug", "trace"]

/-- Whether a name may start with a character. -/
def isNameStart (c : Char) : Bool :=
  c == '-' || c == ':' || c == '_' || Text.isLetterOrNumeric c

/-- Checks a field. What follows a second equals sign is ignored. -/
def checkField (field : List Char) : Except FilterError Unit :=
  match Text.pieces '=' field with
  | _ :: value :: _ =>
    if Text.isNumber value then .ok ()
    else (Pattern.check (String.ofList value)).mapError .field
  | _ => .ok ()

/-- The part of a directive between two numbers of bytes. -/
def cut (text : List Char) (start stop : Nat) : Except (Fault FilterError) (List Char) :=
  match (Text.dropBytes? start text).bind (Text.takeBytes? (stop - start)) with
  | some part => .ok part
  | none => .error (.crash Fault.brokenCharacter)

/-- Where the reading of a directive stands, with the number of bytes before the part that is being
read. -/
inductive Reading where
  | start
  /-- In a level or the name of a target. -/
  | name
  | span (first : Nat)
  | field (first : Nat)
  /-- After a field. -/
  | fields
  /-- After a span. -/
  | spanned
  | level (first : Nat)
deriving DecidableEq

namespace Reading

/-- The reading after one more character of a directive, with the number of bytes before it. -/
def next (text : List Char) (r : Reading) (i : Nat) (c : Char) :
    Except (Fault FilterError) Reading :=
  match r with
  | start =>
    if c = '[' then .ok (span (i + 1))
    else if isNameStart c then .ok name
    else .error (.error .directive)
  | name =>
    if c = '=' then (cut text 0 i).map fun _ => level (i + 1)
    else if c = '[' then (cut text 0 i).map fun _ => span (i + 1)
    else .ok name
  | span first =>
    if c = ']' then (cut text first i).map fun _ => spanned
    else if c = '\x7b' then (cut text first i).map fun _ => field (i + 1)
    else .ok (span first)
  | field first =>
    if c = '\x7d' then do
      let part ← cut text first i
      if part.isEmpty then .error (.error .directive)
      else (checkField part).mapError .error |>.map fun _ => fields
    else .ok (field first)
  | fields => if c = ']' then .ok spanned else .error (.error .directive)
  | spanned => if c = '=' then .ok (level (i + 1)) else .error (.error .directive)
  | level first => .ok (level first)

/-- The reading of what is left of a directive, after a number of bytes. -/
def run (text : List Char) (r : Reading) (i : Nat) : List Char → Except (Fault FilterError) Reading
  | [] => .ok r
  | c :: rest => do run text (← r.next text i c) (i + c.utf8Size) rest

/-- Whether a directive may end here. A level runs to the end of the text, and may be left out. -/
def finish (text : List Char) : Reading → Except (Fault FilterError) Unit
  | name | spanned => .ok ()
  | level first =>
    match Text.dropBytes? first text with
    | none => .error (.crash Fault.brokenCharacter)
    | some part => if part.isEmpty ∨ isLevel part then .ok () else .error (.error .level)
  | start | span _ | field _ | fields => .error (.error .directive)

end Reading

/-- Checks a directive. -/
def checkDirective (text : List Char) : Except (Fault FilterError) Unit := do
  Reading.finish text (← Reading.run text .start 0 (Text.trimBlanks text))

/-- Checks a log filter, up to the first directive that is wrong. Empty directives say nothing. -/
def checkLogFilter (text : String) : Except (Fault FilterError) Unit :=
  ((Text.pieces ',' text.toList).filter fun directive => !directive.isEmpty).forM checkDirective

end OnnxCorpus.CommandLine
