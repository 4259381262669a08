import OnnxCorpus.Files.Path
import OnnxCorpus.Table

/-!
# File trees

A tree holds directories and files by their location, the names on the way from the root, and
knows the location that relative paths start from. Operations take paths and fail the way a file
system does: a path leads through directories only, names are at most 255 bytes long, and a
directory is not a file.
-/

namespace OnnxCorpus

/-- Why an operation on files fails. -/
inductive IoError where
  | notFound
  | busy
  | alreadyExists
  | notADirectory
  | isADirectory
  | nameTooLong
  | nulInPath
  | device (text : String)
deriving DecidableEq

/-- The text of a failure. -/
def IoError.message : IoError → String
  | notFound => "No such file or directory (os error 2)"
  | busy => "Device or resource busy (os error 16)"
  | alreadyExists => "File exists (os error 17)"
  | notADirectory => "Not a directory (os error 20)"
  | isADirectory => "Is a directory (os error 21)"
  | nameTooLong => "File name too long (os error 36)"
  | nulInPath => "file name contained an unexpected NUL byte"
  | device text => text

/-- The names on the way from the root to a place in a tree. -/
abbrev Location : Type := List String

/-- What a tree has at a location. -/
inductive Entry where
  | directory
  | file (bytes : List UInt8)
deriving DecidableEq

/-- Directories and files below a root, and the place that relative paths start from. -/
structure Tree where
  entries : List (Location × Entry) := []
  workingDirectory : Location := []
deriving DecidableEq

namespace Tree

/-- What is at a location. The root is a directory. -/
def entry? (t : Tree) (place : Location) : Option Entry :=
  if place = [] then some .directory else Table.lookup place t.entries

/-- Puts an entry at a location. -/
def set (t : Tree) (place : Location) (entry : Entry) : Tree :=
  { t with entries := Table.insert place entry t.entries }

/-- Removes the entry at a location. -/
def erase (t : Tree) (place : Location) : Tree :=
  { t with entries := Table.erase place t.entries }

/-! ### Following paths -/

/-- The longest name of an entry, in bytes. -/
def maxNameLength : Nat := 255

/-- The length that a path stays below, in bytes. -/
def maxPathLength : Nat := 4096

/-- A location that must be a directory. -/
def requireDirectory (t : Tree) (place : Location) : Except IoError Unit :=
  match t.entry? place with
  | some .directory => .ok ()
  | some (.file _) => .error .notADirectory
  | none => .error .notFound

/-- A name that is not too long for an entry. -/
def requireName (name : String) : Except IoError Unit :=
  if maxNameLength < name.utf8ByteSize then .error .nameTooLong else .ok ()

/-- The place that a segment leads to, whatever is there. -/
def placeAfter (place : Location) (segment : String) : Location :=
  if Path.stays segment then place
  else if segment = ".." then place.dropLast
  else place ++ [segment]

/-- The place that a segment leads to from a directory. -/
def enter (t : Tree) (place : Location) (segment : String) : Except IoError Location := do
  t.requireDirectory place
  requireName segment
  .ok (placeAfter place segment)

/-- The place that segments lead to. -/
def follow (t : Tree) (start : Location) (segments : List String) : Except IoError Location :=
  segments.foldlM t.enter start

/-- The place that a path starts from. -/
def start (t : Tree) (path : String) : Location :=
  if Path.isAbsolute path then [] else t.workingDirectory

/-- The segments of a path that names something. -/
def route (path : String) : Except IoError (List String) :=
  if path.toList.contains '\x00' then .error .nulInPath
  else if path = "" then .error .notFound
  else if maxPathLength ≤ path.utf8ByteSize then .error .nameTooLong
  else .ok (Path.segments path)

/-- The place that a path leads to. -/
def locate (t : Tree) (path : String) : Except IoError Location := do
  let segments ← route path
  t.follow (t.start path) segments

/-- The place of a file that a path leads to, which may not be there yet: its directory is, and
the path ends in a name that it may have. -/
def locateFile (t : Tree) (path : String) : Except IoError Location := do
  let segments ← route path
  match Path.splitName? segments with
  | none => .error .busy
  | some (parents, name) => do
    let parent ← t.follow (t.start path) parents
    t.requireDirectory parent
    requireName name
    .ok (parent ++ [name])

/-- The paths of the directories around a path, nearest first, all as segments, last one first.
None of them ends in a segment that stays where it is. -/
def surroundings : List String → List (List String)
  | [] => []
  | segment :: rest =>
    if Path.stays segment then surroundings rest
    else rest.dropWhile Path.stays :: surroundings rest

/-- The directory that the file of a path lies in, which is the working directory for a path with
nothing around it. -/
def directoryOf (t : Tree) (path : String) : Except IoError Location := do
  let place ← match surroundings (Path.segments path).reverse with
    | [] => .ok t.workingDirectory
    | around :: _ => t.follow (t.start path) around.reverse
  t.requireDirectory place
  .ok place

/-! ### Reading -/

/-- The bytes of a file. -/
def read (t : Tree) (path : String) : Except IoError (List UInt8) := do
  let place ← t.locate path
  match t.entry? place with
  | some (.file bytes) => .ok bytes
  | some .directory => .error .isADirectory
  | none => .error .notFound

/-- The entries below the working directory, with their sizes, in the order of their paths. The
path of a directory ends in a slash, and its size is zero. -/
def listing (t : Tree) : List (String × Nat) :=
  let rows := t.entries.filterMap fun (place, entry) =>
    if t.workingDirectory.isPrefixOf place ∧ place ≠ t.workingDirectory then
      let path := "/".intercalate (place.drop t.workingDirectory.length)
      match entry with
      | .directory => some (path ++ "/", 0)
      | .file bytes => some (path, bytes.length)
    else none
  rows.mergeSort fun a b => !decide (b.1 < a.1)

/-! ### Making directories -/

/-- Whether segments, last one first, lead to a directory. -/
def leadsToDirectory (t : Tree) (start : Location) (reversed : List String) : Bool :=
  match t.follow start reversed.reverse with
  | .ok place => t.entry? place == some .directory
  | .error _ => false

/-- Makes the directory at the end of segments, last one first, in a directory that is there. -/
def makeDirectory (t : Tree) (start : Location) (reversed : List String) :
    Except IoError Tree :=
  match reversed.dropWhile (· = "") with
  | [] => .error .alreadyExists
  | name :: parents => do
    let parent ← t.follow start parents.reverse
    t.requireDirectory parent
    if Path.isName name then do
      requireName name
      match t.entry? (parent ++ [name]) with
      | some _ => .error .alreadyExists
      | none => .ok (t.set (parent ++ [name]) .directory)
    else .error .alreadyExists

/-- Makes the directory of the first path, after those of the paths that follow if it has no
place yet. The tree that comes out holds what was made even when a later step fails. -/
def makeDirectories (t : Tree) (start : Location) :
    List (List String) → Tree × Except IoError Unit
  | [] | [] :: _ => (t, .ok ())
  | reversed :: around =>
    let settle (t : Tree) (e : IoError) : Tree × Except IoError Unit :=
      (t, if t.leadsToDirectory start reversed then .ok () else .error e)
    match t.makeDirectory start reversed with
    | .ok made => (made, .ok ())
    | .error .notFound =>
      match t.makeDirectories start around with
      | (t, .error e) => (t, .error e)
      | (t, .ok ()) =>
        match t.makeDirectory start reversed with
        | .ok made => (made, .ok ())
        | .error e => settle t e
    | .error e => settle t e

/-- Makes a directory and those around it, unless they are there. The empty path asks for none. -/
def createDirectories (t : Tree) (path : String) : Tree × Except IoError Unit :=
  if path = "" then (t, .ok ())
  else
    match route path with
    | .error e => (t, .error e)
    | .ok segments =>
      t.makeDirectories (t.start path) (segments.reverse :: surroundings segments.reverse)

end Tree

end OnnxCorpus
