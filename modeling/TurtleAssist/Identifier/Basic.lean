import TurtleAssist.Catalog.Basic
import TurtleAssist.Distinct
import TurtleAssist.Identifier.Rule

/-!
# The identifiers of a document

The identifiers of a document are read off its lines: each line is recognised
by itself, names that the catalog owns are left out, and of several lines that
give the same name the first one counts. A line that occurs again says nothing
new, so it is not even looked at.

A comment of the form `; @signature - name types` describes the function of
that name, wherever it stands. It only adds its text to the identifier.
-/

namespace TurtleAssist

open Text (Line)

/-- A name that a document defines, or data that it writes down. -/
structure Identifier where
  name : String
  role : Role
  description : String
  /-- The parameters of a function. -/
  args : List String := []
  /-- The line of the first appearance, counted from zero. -/
  line : Nat := 0
  /-- What a signature comment says of the function. -/
  signature : Option String := none
deriving DecidableEq, Repr, Inhabited

/-- A signature comment: the name and the types after it. -/
structure Signature where
  name : String
  types : String
deriving DecidableEq, Repr

namespace Signature

open Pattern

/-- The shape of a signature comment. -/
def pattern : Pattern :=
  text ";" ++ .run .inLine false true ++ text "@signature" ++ gap ++ text "-" ++ gap
    ++ .capture "name" identifier ++ gap
    ++ .capture "types"
      (.one (.oneOf [.range 'a' 'z', .range 'A' 'Z', .single '[', .single ']'])
        ++ .run .inLine false true)

/-- The signature comment of a line, if it has one. The types are taken without the
white space at their end. -/
def ofLine? (line : Line) : Option Signature := do
  let found ← pattern.find? line
  let name ← found.capture? "name"
  let types ← found.capture? "types"
  return ⟨String.ofList name.text, String.ofList (Text.trim types.text)⟩

/-- What the comment says, with the name. -/
def text (signature : Signature) : String :=
  signature.name ++ " " ++ signature.types

end Signature

namespace Identifier

/-- The identifier of a numbered line, if the line is recognised and the catalog does
not own the name. -/
def ofLine? (catalog : Catalog) (numbered : Line × Nat) : Option Identifier := do
  let recognition ← classifyLine numbered.1
  let name := recognition.name
  if catalog.containsName name then none
  else
    return {
      name
      role := recognition.rule.role
      description := recognition.rule.role.description
      args := recognition.parameters
      line := numbered.2 }

/-- The identifier with the first signature comment for its name, if it is a
function. -/
def sign (signatures : List Signature) (identifier : Identifier) : Identifier :=
  if identifier.role = .function then
    { identifier with
      signature := (signatures.find? (·.name == identifier.name)).map Signature.text }
  else identifier

end Identifier

/-- The identifiers before their signatures are attached. -/
def unsignedIdentifiers (catalog : Catalog) (lines : List Line) : List Identifier :=
  distinctBy Identifier.name
    ((distinctBy (fun numbered => String.ofList numbered.1) lines.zipIdx).filterMap
      (Identifier.ofLine? catalog))

/-- **The identifiers of a document,** in the order of their first appearance. -/
def classify (catalog : Catalog) (text : String) : List Identifier :=
  let lines := Text.lines text.toList
  let signatures := lines.filterMap Signature.ofLine?
  (unsignedIdentifiers catalog lines).map (Identifier.sign signatures)

end TurtleAssist
