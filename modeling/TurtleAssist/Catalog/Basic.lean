import TurtleAssist.Catalog.Builtin

/-!
# Catalogs

A catalog is what is known about the configuration language before any
document is read: the commands with their arguments, the keywords with the
text that completes them, the predeclared variables, and the reserved names of
the underlying Scheme. A document can be read against any catalog; the built-in
one is in the module on the turtle language.

The names of commands, keywords and variables belong to the catalog and cannot
be defined by a document. The reserved names are known too, but a document may
define them again, so `Catalog.containsName` leaves them out.
-/

namespace TurtleAssist

/-- A command with a fixed number of arguments. -/
structure Command where
  name : String
  description : String
  /-- The names of the arguments in the order of a call. -/
  args : List String := []
  shortcut : Option String := none
  /-- The command that undoes this one. -/
  opposite : Option String := none
deriving DecidableEq, Repr, Inhabited

/-- The number of arguments that a call takes. -/
def Command.arity (command : Command) : Nat :=
  command.args.length

/-- A structural keyword. -/
structure Keyword where
  name : String
  description : String
  /-- The snippet that follows the name. -/
  body : String
  /-- Whether the completed text goes between parentheses; the keywords of comments
  do not. -/
  wrapsInParens : Bool := true
  shortcut : Option String := none
deriving DecidableEq, Repr, Inhabited

/-- A keyword that is used inside comments. -/
def Keyword.inComment (name description body : String) : Keyword :=
  { name, description, body, wrapsInParens := false }

/-- A predeclared configuration variable. -/
structure Variable where
  name : String
  description : String
  shortcut : Option String := none
deriving DecidableEq, Repr, Inhabited

/-- What is known of the language beforehand. -/
structure Catalog where
  commands : List Command
  keywords : List Keyword
  configVariables : List Variable
  /-- The reserved names. -/
  builtins : List String := builtinNames
deriving DecidableEq, Repr, Inhabited

namespace Catalog

/-- The first command of a name. -/
def command? (catalog : Catalog) (name : String) : Option Command :=
  catalog.commands.find? (·.name == name)

/-- Whether the name belongs to a command, a keyword or a variable. -/
def containsName (catalog : Catalog) (name : String) : Bool :=
  catalog.commands.any (·.name == name) || catalog.keywords.any (·.name == name)
    || catalog.configVariables.any (·.name == name)

/-- Every name that is known before a document is read. -/
def knownNames (catalog : Catalog) : List String :=
  catalog.builtins ++ catalog.commands.map (·.name) ++ catalog.keywords.map (·.name)
    ++ catalog.configVariables.map (·.name)

end Catalog

end TurtleAssist
