import OnnxCorpus.CommandLine.Run

/-!
# Surveys

A run needs no more of the file system than the places that its paths lead over, and leaves
changes at some of them. `Request.places` lists the former, and `Tree.changesTo` the latter, each
directory before what lies in it.
-/

namespace OnnxCorpus

namespace Tree

/-- The places that segments lead over, whatever is there. -/
def placesOver (start : Location) : List String → List Location
  | [] => []
  | segment :: rest => placeAfter start segment :: placesOver (placeAfter start segment) rest

/-- The entries of a later tree that are new or differ. -/
def changesTo (earlier later : Tree) : List (Location × Entry) :=
  later.entries.filter fun (place, entry) => earlier.entry? place ≠ some entry

end Tree

namespace CommandLine

/-- The paths that a command looks at. -/
def Command.paths (outDir : String) : Command → List String
  | .list => []
  | .generate names => outDir :: names.map (filePath outDir)
  | .all _ _ => outDir :: Corpus.catalogue.names.map (filePath outDir)
  | .inspect file => [file]
where
  /-- The path of the file of a fixture. -/
  filePath (outDir name : String) : String := Path.join outDir (name ++ "." ++ Model.extension)

/-- The places that a request leads over, from those that a path starts from. -/
def Request.places (start : String → Location) : Request → List Location
  | .run i =>
    (i.command.paths i.outDir).flatMap fun path =>
      Tree.placesOver (start path) (Path.segments path)
  | .version | .help | .usage => []

end CommandLine

end OnnxCorpus
