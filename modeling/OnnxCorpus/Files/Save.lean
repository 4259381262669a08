import OnnxCorpus.Files.Tree

/-!
# Saving a file

A save fills a temporary file beside its target and then renames it, so that the target is never
seen half written. `saveWith` gives every tree that a save passes through, and lets any of its
steps fail; a failed save removes its temporary file.
-/

namespace OnnxCorpus

/-- A step of a save that is made to fail: making the temporary file, filling it (after some bytes
are written), or renaming it. -/
inductive SaveFault where
  | create (cause : IoError)
  | fill (written : Nat) (cause : IoError)
  | rename (cause : IoError)
deriving DecidableEq

/-- A save: the trees that it passes through, the one it leaves behind, and how it ends. -/
structure SaveRun (ε α : Type) where
  passed : List Tree
  left : Tree
  result : Except ε α

namespace Tree

/-- A name that no entry and no segment of the path has, since it is longer than every name in the
tree and than the path. -/
def freshName (t : Tree) (path : String) : String :=
  let lengths := t.entries.map fun (place, _) => (place.map String.length).foldl max 0
  String.ofList (List.replicate (lengths.foldl max path.length + 1) 't')

/-- Renames a file over a target, which is refused where the target is a directory. -/
def rename (t : Tree) (source target : Location) : Except IoError Tree :=
  match t.entry? source, t.entry? target with
  | none, _ => .error .notFound
  | some _, some .directory => .error .isADirectory
  | some entry, _ => .ok ((t.erase source).set target entry)

/-- The end of a save whose temporary file is filled: the file is renamed, or removed again. -/
def finishSave (passed : List Tree) (filled : Tree) (source : Location)
    (renamed : Except IoError Tree) : SaveRun IoError Unit :=
  match renamed with
  | .ok saved => ⟨passed ++ [filled], saved, .ok ()⟩
  | .error e => ⟨passed ++ [filled], filled.erase source, .error e⟩

/-- A save in which a step may be made to fail. -/
def saveWith (fault : Option SaveFault) (t : Tree) (path : String) (bytes : List UInt8) :
    SaveRun IoError Unit :=
  match t.directoryOf path with
  | .error e => ⟨[], t, .error e⟩
  | .ok directory =>
    let source := directory ++ [t.freshName path]
    let created := t.set source (.file [])
    let filled := created.set source (.file bytes)
    match fault with
    | some (.create e) => ⟨[], t, .error e⟩
    | some (.fill written e) =>
      finishSave [t, created] (created.set source (.file (bytes.take written))) source (.error e)
    | some (.rename e) => finishSave [t, created] filled source (.error e)
    | none =>
      finishSave [t, created] filled source ((t.locateFile path).bind (filled.rename source))

/-- Saves bytes as the file of a path. -/
def save (t : Tree) (path : String) (bytes : List UInt8) : SaveRun IoError Unit :=
  t.saveWith none path bytes

end Tree

end OnnxCorpus
