import TurtleAssist.Catalog.Basic
import TurtleAssist.Json.Value

/-!
# Writing catalogs

A record is written as an object of its fields in order. A shortcut and an
opposite are written only if they are there; every other field is always
written, also where it has its default.
-/

namespace TurtleAssist

/-- A member that is written only if it is there. -/
def optionalMember (key : String) (value : Option String) : Option (String × Json) :=
  value.map fun text => (key, .string text)

/-- A command as a JSON value. -/
def Command.toJson (command : Command) : Json :=
  .ofMembers
    [ some ("name", .string command.name),
      some ("description", .string command.description),
      some ("args", .strings command.args),
      optionalMember "shortcut" command.shortcut,
      optionalMember "opposite" command.opposite ]

/-- A keyword as a JSON value. -/
def Keyword.toJson (keyword : Keyword) : Json :=
  .ofMembers
    [ some ("name", .string keyword.name),
      some ("description", .string keyword.description),
      some ("body", .string keyword.body),
      some ("wraps_in_parens", .bool keyword.wrapsInParens),
      optionalMember "shortcut" keyword.shortcut ]

/-- A variable as a JSON value. -/
def Variable.toJson (known : Variable) : Json :=
  .ofMembers
    [ some ("name", .string known.name),
      some ("description", .string known.description),
      optionalMember "shortcut" known.shortcut ]

/-- A catalog as a JSON value. -/
def Catalog.toJson (catalog : Catalog) : Json :=
  .object
    [ ("commands", .array (catalog.commands.map Command.toJson)),
      ("keywords", .array (catalog.keywords.map Keyword.toJson)),
      ("variables", .array (catalog.configVariables.map Variable.toJson)),
      ("builtins", .strings catalog.builtins) ]

/-- The text of a catalog. -/
def Catalog.text (catalog : Catalog) : String :=
  catalog.toJson.text

end TurtleAssist
