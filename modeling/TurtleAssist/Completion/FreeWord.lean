import TurtleAssist.Identifier.Basic
import TurtleAssist.Unicode.WordCharacter

/-!
# The free words of a document

A document is split at everything that does not belong to words. Each piece
with a character in it may be offered again as it stands, unless its text is a
name that is offered already, by the catalog or by an identifier of the
document.
-/

namespace TurtleAssist

/-- The words of a text in the order of their first appearance, each once, without
the names of the catalog and those of the identifiers. -/
def words (catalog : Catalog) (text : String) (identifiers : List Identifier) : List String :=
  let classified := Std.HashSet.ofList (identifiers.map (·.name))
  let pieces := (Text.pieces (fun c => !Unicode.isWordCharacter c) text.toList).map String.ofList
  distinctBy id
    ((pieces.filter fun piece => !piece.isEmpty).filter fun word =>
      !catalog.containsName word && !classified.contains word)

end TurtleAssist
