import TurtleAssist.Catalog.Reader
import TurtleAssist.Catalog.Turtle

/-!
# Catalog files

A catalog can be taken from a file instead of the built-in one. The file may be
absent, it may not be text, and its text may not be a catalog. Reading the file
is the work of the program; here it is only said what its contents amount to.
-/

namespace TurtleAssist

/-- Why there is no catalog. -/
inductive CatalogError where
  | fileNotFound
  | notText
  | malformed (failure : Json.Failure)
deriving DecidableEq, Repr

/-- The message for a catalog that there is not. -/
def CatalogError.message : CatalogError → String
  | .fileNotFound => "failed to read catalog: No such file or directory (os error 2)"
  | .notText => "failed to read catalog: stream did not contain valid UTF-8"
  | .malformed failure => "malformed catalog: " ++ failure.message

namespace Catalog

/-- The catalog of a text. -/
def ofText? (text : String) : Except CatalogError Catalog :=
  (ofText text).mapError .malformed

/-- The catalog of the bytes of a file, or of no file. -/
def ofBytes? (contents : Option ByteArray) : Except CatalogError Catalog :=
  match contents with
  | none => .error .fileNotFound
  | some bytes =>
    match String.fromUTF8? bytes with
    | none => .error .notText
    | some text => ofText? text

/-- The catalog to be used, given the path of its file, if one is named, and what the
files contain. -/
def load (path : Option String) (contents : String → Option ByteArray) :
    Except CatalogError Catalog :=
  match path with
  | none => .ok turtle
  | some path => ofBytes? (contents path)

/-- What was being done when the catalog of a file failed to load. -/
def loadContext (path : String) : String :=
  "failed to load catalog from " ++ path

end Catalog

end TurtleAssist
