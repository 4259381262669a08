import OnnxCorpus.Text.Parts

/-!
# Paths

A path is a text of segments between slashes. Empty segments and dots stand for the place reached
so far, and two dots for the directory around it.
-/

namespace OnnxCorpus.Path

/-- The segments of a path. -/
def segments (path : String) : List String :=
  (Text.pieces '/' path.toList).map String.ofList

/-- Whether a path starts from the root. -/
def isAbsolute (path : String) : Bool := path.toList.head? == some '/'

/-- The path of a file in a directory. An absolute file path stands for itself. -/
def join (directory file : String) : String :=
  if isAbsolute file ∨ directory = "" then file
  else if directory.toList.getLast? = some '/' then directory ++ file
  else directory ++ "/" ++ file

/-- Whether a segment stays where it is. -/
def stays (segment : String) : Bool := segment == "" || segment == "."

/-- Whether a segment is the name of an entry. -/
def isName (segment : String) : Bool := !stays segment && segment != ".."

/-- The segments before the last name and that name, for a path that ends in one. -/
def splitName? (segments : List String) : Option (List String × String) :=
  match segments.getLast? with
  | some name => if isName name then some (segments.dropLast, name) else none
  | none => none

end OnnxCorpus.Path
