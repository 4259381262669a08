import OnnxCorpus.Catalogue

/-!
# Generating fixtures

A workspace is what fixtures are generated in: the files, the flag that cancels batches, and the
builders called so far. Generating a fixture calls its builder once, names the graph and its
producer after the fixture, and saves the model in a directory under that name.
-/

namespace OnnxCorpus

/-- What a call of a builder does: it may first set the flag that cancels batches, and it gives
the pieces of a graph or fails. -/
structure Build where
  result : Built
  cancels : Bool := false

/-- The files, the flag that cancels batches, and the builders called so far, oldest first. -/
structure Workspace (β : Type) where
  tree : Tree := {}
  cancelled : Bool := false
  calls : List β := []

/-- How fixtures are generated: the versions that files declare, the directory they are saved in,
and the number of workers of a batch. -/
structure Runner where
  versions : Versions := {}
  directory : String
  jobs : Nat := 1

namespace Fixture

variable {β : Type} (builds : β → Build)

/-- Calls the builder of a fixture. -/
def call (f : Fixture β) (w : Workspace β) : Workspace β × Built :=
  let build := builds f.builder
  ({ w with calls := w.calls ++ [f.builder], cancelled := w.cancelled || build.cancels },
    build.result)

omit builds in
/-- The model of the pieces that the builder of a fixture gave. -/
def toModel (f : Fixture β) : Built → Except (Fault FixtureError) Model
  | .ok parts => .ok ⟨parts.toGraph f.name, f.name⟩
  | .error fault => .error (fault.map (.build f.name))

/-- Builds the model of a fixture. -/
def buildModel (f : Fixture β) (w : Workspace β) :
    Workspace β × Except (Fault FixtureError) Model :=
  let (w, built) := f.call builds w
  (w, f.toModel built)

omit builds in
/-- The path that a fixture is saved at. -/
def path (f : Fixture β) (directory : String) : String :=
  Path.join directory (f.name ++ "." ++ Model.extension)

omit builds in
/-- A save of the model of a fixture, unless it was not built, that gives its path. A step of it may
be made to fail. -/
def saveModelWith (fault : Option SaveFault) (versions : Versions) (directory : String)
    (f : Fixture β) (built : Except (Fault FixtureError) Model) (t : Tree) :
    SaveRun (Fault FixtureError) String :=
  match built with
  | .error fault => ⟨[], t, .error fault⟩
  | .ok model =>
    let run := model.saveWith fault versions t (f.path directory)
    ⟨run.passed, run.left, match run.result with
      | .ok () => .ok (f.path directory)
      | .error e => .error (.error (.save f.name e))⟩

omit builds in
/-- Saves the model of a fixture, unless it was not built, and gives its path. -/
def saveModel (versions : Versions) (directory : String) (f : Fixture β)
    (built : Except (Fault FixtureError) Model) (t : Tree) :
    Tree × Except (Fault FixtureError) String :=
  let run := f.saveModelWith none versions directory built t
  (run.left, run.result)

/-- Builds and saves the model of a fixture. A step of the save may be made to fail. -/
def generateWith (fault : Option SaveFault) (versions : Versions) (directory : String)
    (f : Fixture β) (w : Workspace β) : Workspace β × SaveRun (Fault FixtureError) String :=
  let (w, built) := f.buildModel builds w
  let run := f.saveModelWith fault versions directory built w.tree
  ({ w with tree := run.left }, run)

/-- Builds and saves the model of a fixture, and gives its path. -/
def generate (versions : Versions) (directory : String) (f : Fixture β) (w : Workspace β) :
    Workspace β × Except (Fault FixtureError) String :=
  let (w, run) := f.generateWith builds none versions directory w
  (w, run.result)

/-- What is generated is what was built, saved. -/
theorem generate_eq (versions : Versions) (directory : String) (f : Fixture β) (w : Workspace β) :
    f.generate builds versions directory w =
      let (w, built) := f.buildModel builds w
      let (tree, result) := f.saveModel versions directory built w.tree
      ({ w with tree }, result) := rfl

end Fixture

/-- Generates the fixture of a name. A step of the save may be made to fail. -/
def Runner.runOneWith {β : Type} (fault : Option SaveFault) (builds : β → Build) (r : Runner)
    (c : Catalogue β) (name : String) (w : Workspace β) :
    Workspace β × SaveRun (Fault FixtureError) String :=
  match c.get? name with
  | none => (w, ⟨[], w.tree, .error (.error (.unknownFixture name))⟩)
  | some f => f.generateWith builds fault r.versions r.directory w

/-- Generates the fixture of a name. -/
def Runner.runOne {β : Type} (builds : β → Build) (r : Runner) (c : Catalogue β) (name : String)
    (w : Workspace β) : Workspace β × Except (Fault FixtureError) String :=
  let (w, run) := r.runOneWith none builds c name w
  (w, run.result)

end OnnxCorpus
