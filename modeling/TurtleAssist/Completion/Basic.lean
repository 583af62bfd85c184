import TurtleAssist.Completion.Documentation
import TurtleAssist.Completion.FreeWord
import TurtleAssist.Completion.Snippet

/-!
# Completions

What is offered for a document comes in seven tiers: the commands, their
shortcuts, the configuration variables, the keywords, a few angles, the
identifiers of the document and its free words. Each tier is a list of entries
in an order of its own, and `complete` is their concatenation in which only the
first entry of each label stays. The order is the order of precedence: an entry
of an earlier tier hides those of the same label in later ones.
-/

namespace TurtleAssist

/-- What an entry completes to. -/
inductive EntryKind where
  | function
  | snippet
  | variable
  | keyword
  | constant
  | color
  | text
deriving DecidableEq, Repr, Inhabited

/-- The word for a kind of entry. -/
def EntryKind.word : EntryKind → String
  | .function => "function"
  | .snippet => "snippet"
  | .variable => "variable"
  | .keyword => "keyword"
  | .constant => "constant"
  | .color => "color"
  | .text => "text"

/-- The kind of the entry for an identifier. -/
def Role.entryKind : Role → EntryKind
  | .variable => .variable
  | .function => .function
  | .color => .color
  | .vector => .constant

/-- Something that is offered. -/
structure Entry where
  label : String
  kind : EntryKind
  detail : String
  documentation : String
  /-- What is inserted, possibly with placeholders. -/
  insertText : String
deriving DecidableEq, Repr, Inhabited

namespace Entry

/-- A command under its name or its shortcut. -/
def ofCommand (command : Command) (label : String) (kind : EntryKind) : Entry where
  label
  kind
  detail := "(" ++ " ".intercalate (command.name :: command.args) ++ ")"
  documentation := TurtleAssist.documentation command.description commandsUrl none
  insertText := Snippet.call command.name command.args

/-- A configuration variable under its name or its shortcut. -/
def ofVariable (known : Variable) (label : String) (kind : EntryKind) : Entry where
  label
  kind
  detail := "Configuration variable"
  documentation := TurtleAssist.documentation known.description variablesUrl none
  insertText := "(define " ++ known.name ++ " '(" ++ Snippet.placeholder 1 "commands" ++ "))"

/-- A keyword under its name or its shortcut. -/
def ofKeyword (keyword : Keyword) (label : String) (kind : EntryKind) : Entry where
  label
  kind
  detail := "Keyword"
  documentation := TurtleAssist.documentation keyword.description schemeUrl none
  insertText :=
    let body := keyword.name ++ " " ++ keyword.body
    if keyword.wrapsInParens then "(" ++ body ++ ")" else body

/-- An angle in degrees. -/
def ofAngle (angle : Int) : Entry where
  label := toString angle
  kind := .constant
  detail := "Angle in degrees"
  documentation :=
    TurtleAssist.documentation
      ("A commonly used **angle** of " ++ toString angle ++ " degrees") commandsUrl none
  insertText := toString angle

/-- An identifier of the document. A function is inserted as a call. -/
def ofIdentifier (identifier : Identifier) : Entry where
  label := identifier.name
  kind := identifier.role.entryKind
  detail := "user defined " ++ identifier.role.word
  documentation :=
    let text :=
      match identifier.signature with
      | some signature => identifier.description ++ ": *" ++ signature ++ "*"
      | none => identifier.description
    TurtleAssist.documentation text schemeUrl (some inaccuracyNotice)
  insertText :=
    if identifier.role = .function then Snippet.call identifier.name identifier.args
    else identifier.name

/-- A word of the document. -/
def ofWord (word : String) : Entry where
  label := word
  kind := .text
  detail := "Word"
  documentation :=
    TurtleAssist.documentation "A **word** typed in the current document" wordsUrl none
  insertText := word

end Entry

namespace Completion

/-- Every command under its name. -/
def commands (catalog : Catalog) : List Entry :=
  catalog.commands.map fun command => Entry.ofCommand command command.name .function

/-- The commands that have a shortcut, under it. -/
def commandShortcuts (catalog : Catalog) : List Entry :=
  catalog.commands.filterMap fun command =>
    command.shortcut.map fun shortcut => Entry.ofCommand command shortcut .snippet

/-- The configuration variables under their names, then under their shortcuts. -/
def configVariables (catalog : Catalog) : List Entry :=
  (catalog.configVariables.map fun known => Entry.ofVariable known known.name .variable)
    ++ catalog.configVariables.filterMap fun known =>
      known.shortcut.map fun shortcut => Entry.ofVariable known shortcut .snippet

/-- The keywords under their names, then under their shortcuts. -/
def keywords (catalog : Catalog) : List Entry :=
  (catalog.keywords.map fun keyword => Entry.ofKeyword keyword keyword.name .keyword)
    ++ catalog.keywords.filterMap fun keyword =>
      keyword.shortcut.map fun shortcut => Entry.ofKeyword keyword shortcut .snippet

/-- The angles that are offered, in degrees. -/
def angles : List Int :=
  [45, 90, 135, 180]

/-- The angles, then their negations. -/
def constants : List Entry :=
  (angles ++ angles.map (- ·)).map Entry.ofAngle

/-- The identifiers of a document. -/
def identifiers (found : List Identifier) : List Entry :=
  found.map Entry.ofIdentifier

/-- The free words of a document. -/
def freeWords (found : List String) : List Entry :=
  found.map Entry.ofWord

/-- The tiers one after another. -/
def tiers (catalog : Catalog) (text : String) : List Entry :=
  let found := classify catalog text
  commands catalog ++ commandShortcuts catalog ++ configVariables catalog ++ keywords catalog
    ++ constants ++ identifiers found ++ freeWords (words catalog text found)

end Completion

/-- **Everything that is offered for a document,** in order of precedence and without
repeated labels. -/
def complete (catalog : Catalog) (text : String) : List Entry :=
  distinctBy Entry.label (Completion.tiers catalog text)

end TurtleAssist
