import OnnxCorpus.Files.Save
import OnnxCorpus.Format.Decode

/-!
# Models in files

Saving encodes a model and saves the bytes; a model that is refused touches no file. Loading reads
the bytes of a file and decodes them.
-/

namespace OnnxCorpus

/-- Why a model is not saved. -/
inductive SaveError where
  | encode (cause : EncodeError)
  | io (cause : IoError)
deriving DecidableEq

namespace SaveError

/-- The text of a failure. -/
def message : SaveError → String
  | encode cause => cause.message
  | io cause => "IO error: " ++ cause.message

/-- The texts of the causes of a failure, nearest first. -/
def causes : SaveError → List String
  | encode (.invalid cause) => [cause.message]
  | encode (.incomplete _) => []
  | io cause => [cause.message]

end SaveError

/-- Why a model is not loaded. -/
inductive LoadError where
  | decode (cause : DecodeError)
  | io (cause : IoError)
deriving DecidableEq

namespace LoadError

/-- The text of a failure. -/
def message : LoadError → String
  | decode cause => cause.message
  | io cause => "IO error: " ++ cause.message

/-- The texts of the causes of a failure, nearest first. -/
def causes : LoadError → List String
  | decode _ => []
  | io cause => [cause.message]

end LoadError

namespace Model

/-- The ending of the files that models are saved in. -/
def extension : String := "onnx"

/-- A save of a model in which a step may be made to fail. -/
def saveWith (fault : Option SaveFault) (versions : Versions) (t : Tree) (path : String)
    (m : Model) : SaveRun SaveError Unit :=
  match m.encode versions with
  | .error e => ⟨[], t, .error (.encode e)⟩
  | .ok bytes =>
    let run := t.saveWith fault path bytes
    ⟨run.passed, run.left, run.result.mapError .io⟩

/-- Saves a model as the file of a path. -/
def save (versions : Versions) (t : Tree) (path : String) (m : Model) : SaveRun SaveError Unit :=
  m.saveWith none versions t path

/-- The model in the file of a path. -/
def load (t : Tree) (path : String) : Except (Fault LoadError) Model :=
  match t.read path with
  | .error e => .error (.error (.io e))
  | .ok bytes => (Model.decode bytes).mapError (Fault.map .decode)

end Model

end OnnxCorpus
