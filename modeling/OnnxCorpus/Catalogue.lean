import OnnxCorpus.Files.Model
import OnnxCorpus.Text.Character

/-!
# Catalogues of fixtures

A catalogue lists fixtures, each with a name of its own, in the order of their registration. A
name that is taken is refused, and the catalogue stays as it was. Fixtures can be registered in
bulk under the last part of a path; the first refusal ends that and keeps what came before it.
-/

namespace OnnxCorpus

/-- What can go wrong with a fixture. -/
inductive FixtureError where
  | duplicateName (name : String)
  | unknownFixture (name : String)
  | build (name : String) (cause : TensorError)
  | save (name : String) (cause : SaveError)
  | crashed (name : String) (text : String)
deriving DecidableEq

namespace FixtureError

/-- The text of an error. -/
def message : FixtureError → String
  | duplicateName name => s!"fixture '{name}' is already registered"
  | unknownFixture name => s!"no fixture named '{name}'"
  | build name cause => s!"fixture '{name}' failed to build: {cause.message}"
  | save name cause => s!"fixture '{name}' failed to export: {cause.message}"
  | crashed name text => s!"fixture '{name}' panicked: {text}"

/-- The texts of the causes of an error, nearest first. -/
def causes : FixtureError → List String
  | build _ cause => [cause.message]
  | save _ cause => cause.message :: cause.causes
  | duplicateName _ | unknownFixture _ | crashed _ _ => []

end FixtureError

/-- A name and what builds the pieces of its graph. -/
structure Fixture (β : Type) where
  name : String
  builder : β
deriving DecidableEq

/-- Fixtures in the order of their registration. -/
structure Catalogue (β : Type) where
  fixtures : List (Fixture β) := []

namespace Catalogue

variable {β : Type}

/-- The names of the fixtures, in the order of registration. -/
def names (c : Catalogue β) : List String := c.fixtures.map (·.name)

/-- The number of fixtures. -/
def size (c : Catalogue β) : Nat := c.fixtures.length

/-- Whether there is no fixture. -/
def isEmpty (c : Catalogue β) : Bool := c.fixtures.isEmpty

/-- The fixture of a name. -/
def get? (c : Catalogue β) (name : String) : Option (Fixture β) :=
  c.fixtures.find? (·.name = name)

/-- The catalogue with one more fixture, whose name is not taken. -/
def register (c : Catalogue β) (name : String) (builder : β) :
    Except FixtureError (Catalogue β) :=
  match c.get? name with
  | some _ => .error (.duplicateName name)
  | none => .ok ⟨c.fixtures ++ [⟨name, builder⟩]⟩

/-! ### Registration in bulk -/

/-- Characters up to two colons in a row. -/
def beforeColons : List Char → List Char
  | ':' :: ':' :: _ => []
  | c :: rest => c :: beforeColons rest
  | [] => []

/-- The name of a fixture of a path: what follows the last two colons in a row, without white
space around it. -/
def nameOfPath (path : String) : String :=
  String.ofList (Text.trimBlanks (beforeColons path.toList.reverse).reverse)

/-- Registers builders under the names of their paths, up to the first that is refused. -/
def registerAll (c : Catalogue β) : List (String × β) → Catalogue β × Except FixtureError Unit
  | [] => (c, .ok ())
  | (path, builder) :: rest =>
    match c.register (nameOfPath path) builder with
    | .error e => (c, .error e)
    | .ok c => c.registerAll rest

end Catalogue

end OnnxCorpus
