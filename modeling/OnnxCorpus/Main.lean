import OnnxCorpus.CommandLine.Survey

/-!
# The program

Reads the part of the file system that the arguments ask about, runs them on it, and carries out
the changes: directories are made, and files are filled under another name and then renamed.
-/

namespace OnnxCorpus

/-- The absolute path of a place. -/
def Location.path (place : Location) : String := "/" ++ "/".intercalate place

/-- The code of the failure to read a directory as a file. -/
def isDirectoryCode : UInt32 := 21

/-- What is at a place. -/
def readEntry (place : Location) : IO (Option Entry) := do
  match ← (IO.FS.readBinFile place.path).toBaseIO with
  | .ok bytes => return some (.file bytes.data.toList)
  | .error (.inappropriateType _ code _) =>
    return if code = isDirectoryCode then some .directory else none
  | .error _ => return none

/-- The tree of what is at some places. -/
def readTree (workingDirectory : Location) (places : List Location) : IO Tree :=
  (Tree.placesOver [] workingDirectory ++ places).foldlM (fun t place => do
    match ← readEntry place with
    | some entry => return t.set place entry
    | none => return t) { workingDirectory }

/-- Puts an entry at a place. -/
def writeEntry (place : Location) : Entry → IO Unit
  | .directory => IO.FS.createDir place.path
  | .file bytes => do
    let filled := place.path ++ ".part"
    IO.FS.writeBinFile filled ⟨bytes.toArray⟩
    IO.FS.rename filled place.path

end OnnxCorpus

open OnnxCorpus in
/-- Runs the arguments of the program. -/
def main (arguments : List String) : IO UInt32 := do
  let here := (Path.segments (toString (← IO.currentDir))).filter Path.isName
  let request := CommandLine.Request.ofArguments arguments
  let start := Tree.start { workingDirectory := here }
  let earlier ← readTree here (request.places start)
  let (later, report) := CommandLine.run arguments earlier
  for (place, entry) in earlier.changesTo later do
    writeEntry place entry
  IO.print report.output
  IO.eprint report.error
  if report.code = 2 then IO.eprint (CommandLine.unlines CommandLine.usageLines)
  return .ofNat report.code
