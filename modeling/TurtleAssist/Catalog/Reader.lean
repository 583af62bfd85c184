import TurtleAssist.Catalog.Basic
import TurtleAssist.Json.Record

/-!
# Reading catalogs

A catalog is written as a JSON text. Its records have required fields and
fields with a default: a command without `args` takes none, a keyword without
`wraps_in_parens` is wrapped, a catalog without `builtins` has the usual
reserved names, and a shortcut or an opposite may be absent or `null`.

For each record there is a draft, with an optional value for each field, and a
schema that names the fields in order and finishes a draft. Nothing else is
said of the format here; how a record is read from a text follows from its
schema.
-/

namespace TurtleAssist

open Json (Field Schema Reader)

/-- The value of a required field, or the key of the field. -/
def required {α : Type} (key : String) (value : Option α) : Except String α :=
  match value with
  | some value => .ok value
  | none => .error key

/-- The fields of a command read so far. -/
structure Command.Draft where
  name : Option String := none
  description : Option String := none
  args : Option (List String) := none
  shortcut : Option (Option String) := none
  opposite : Option (Option String) := none

/-- How a command is written. -/
def Command.schema : Schema Command.Draft Command where
  title := "Command"
  fields :=
    [ .of "name" Reader.text (fun v d => { d with name := some v }) (·.name.isSome),
      .of "description" Reader.text (fun v d => { d with description := some v })
        (·.description.isSome),
      .of "args" (Reader.list Reader.text) (fun v d => { d with args := some v }) (·.args.isSome),
      .of "shortcut" Reader.textOrNull (fun v d => { d with shortcut := some v })
        (·.shortcut.isSome),
      .of "opposite" Reader.textOrNull (fun v d => { d with opposite := some v })
        (·.opposite.isSome) ]
  blank := {}
  finish draft := do
    return {
      name := ← required "name" draft.name
      description := ← required "description" draft.description
      args := draft.args.getD []
      shortcut := draft.shortcut.getD none
      opposite := draft.opposite.getD none }

/-- The fields of a keyword read so far. -/
structure Keyword.Draft where
  name : Option String := none
  description : Option String := none
  body : Option String := none
  wrapsInParens : Option Bool := none
  shortcut : Option (Option String) := none

/-- How a keyword is written. -/
def Keyword.schema : Schema Keyword.Draft Keyword where
  title := "Keyword"
  fields :=
    [ .of "name" Reader.text (fun v d => { d with name := some v }) (·.name.isSome),
      .of "description" Reader.text (fun v d => { d with description := some v })
        (·.description.isSome),
      .of "body" Reader.text (fun v d => { d with body := some v }) (·.body.isSome),
      .of "wraps_in_parens" Reader.boolean (fun v d => { d with wrapsInParens := some v })
        (·.wrapsInParens.isSome),
      .of "shortcut" Reader.textOrNull (fun v d => { d with shortcut := some v })
        (·.shortcut.isSome) ]
  blank := {}
  finish draft := do
    return {
      name := ← required "name" draft.name
      description := ← required "description" draft.description
      body := ← required "body" draft.body
      wrapsInParens := draft.wrapsInParens.getD true
      shortcut := draft.shortcut.getD none }

/-- The fields of a variable read so far. -/
structure Variable.Draft where
  name : Option String := none
  description : Option String := none
  shortcut : Option (Option String) := none

/-- How a variable is written. -/
def Variable.schema : Schema Variable.Draft Variable where
  title := "Variable"
  fields :=
    [ .of "name" Reader.text (fun v d => { d with name := some v }) (·.name.isSome),
      .of "description" Reader.text (fun v d => { d with description := some v })
        (·.description.isSome),
      .of "shortcut" Reader.textOrNull (fun v d => { d with shortcut := some v })
        (·.shortcut.isSome) ]
  blank := {}
  finish draft := do
    return {
      name := ← required "name" draft.name
      description := ← required "description" draft.description
      shortcut := draft.shortcut.getD none }

/-- The fields of a catalog read so far. -/
structure Catalog.Draft where
  commands : Option (List Command) := none
  keywords : Option (List Keyword) := none
  configVariables : Option (List Variable) := none
  builtins : Option (List String) := none

/-- How a catalog is written. -/
def Catalog.schema : Schema Catalog.Draft Catalog where
  title := "Catalog"
  fields :=
    [ .of "commands" (Reader.list (Reader.record Command.schema))
        (fun v d => { d with commands := some v }) (·.commands.isSome),
      .of "keywords" (Reader.list (Reader.record Keyword.schema))
        (fun v d => { d with keywords := some v }) (·.keywords.isSome),
      .of "variables" (Reader.list (Reader.record Variable.schema))
        (fun v d => { d with configVariables := some v }) (·.configVariables.isSome),
      .of "builtins" (Reader.list Reader.text) (fun v d => { d with builtins := some v })
        (·.builtins.isSome) ]
  blank := {}
  finish draft := do
    return {
      commands := ← required "commands" draft.commands
      keywords := ← required "keywords" draft.keywords
      configVariables := ← required "variables" draft.configVariables
      builtins := draft.builtins.getD builtinNames }

/-- Reads a catalog from its text. -/
def Catalog.ofText (text : String) : Except Json.Failure Catalog :=
  (Reader.record Catalog.schema).run text.toList

end TurtleAssist
