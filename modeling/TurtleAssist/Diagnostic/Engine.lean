import TurtleAssist.Diagnostic.Rule
import TurtleAssist.Identifier.Basic
import TurtleAssist.Pattern.Name

/-!
# Diagnosing a document

A line gets at most one diagnostic, that of the first rule that is found in it.
The rules of the catalog are the same for every document. When none of them is
found, the last tier looks at the innermost forms of the line, those that hold
no other parenthesis: a form is reported if its head, the first token in it, is
neither a number nor known. Known are the names of the catalog and the reserved
ones, the variables and functions of the document wherever they are defined,
and the parameters that the line itself declares.

The known names of a document have one pattern, and a name is known if it is
recognised by it. If they are so many that the pattern is refused, the last tier
is left out for that document and the others are not affected.
-/

namespace TurtleAssist

open Text (Line Span)

/-- What the last tier reports. -/
def unknownIdentifierMessage : String :=
  "Unknown command or identifier, possibly unknown built-in or defined externally."

/-- The rules made from a catalog, with the catalog. -/
structure Engine where
  catalog : Catalog
  rules : List Rule
  /-- What has made the patterns of the rules ready. It is asked again for the known names
  of every document. -/
  compiler : Compiler

/-- What is known in a document: the pattern of its known names. -/
structure KnownNames where
  pattern : Pattern
deriving DecidableEq, Repr

namespace KnownNames

open Pattern

/-- An innermost form, with what it holds after its first white space. -/
def innerForm : Pattern :=
  opened (blanks ++ .capture "inside" (.run .nonParen false true) ++ text ")")

/-- An integer and nothing else. -/
def number : Pattern :=
  .textStart ++ integer ++ .textEnd

/-- The names of a catalog and of the variables and functions among the identifiers. -/
def namesIn (catalog : Catalog) (identifiers : List Identifier) : List String :=
  let defined := identifiers.filter fun identifier =>
    identifier.role = .variable ∨ identifier.role = .function
  catalog.knownNames ++ defined.map (·.name)

/-- The known names of a document that defines the identifiers, unless their pattern is
refused. -/
def ofIdentifiers (compiler : Compiler) (catalog : Catalog) (identifiers : List Identifier) :
    Except PatternError KnownNames :=
  (compiler.compile (exactNames (namesIn catalog identifiers))).map (⟨·⟩)

/-- The head of a form: the first token of what it holds. -/
def head? (form : Match) : Option (List Char) := do
  let inside ← form.capture? "inside"
  (Text.tokens inside.text).head?

/-- Whether a form is to be reported on a line that declares the parameters. -/
def flags (known : KnownNames) (parameters : List String) (form : Match) : Bool :=
  match head? form with
  | some head =>
    !number.isIn head && !known.pattern.isIn head && !parameters.contains (String.ofList head)
  | none => false

/-- The first form of a line that is to be reported. -/
def find? (known : KnownNames) (line : Line) : Option Span :=
  ((innerForm.findAll line).find? (known.flags (lineParameters line))).map (·.span)

end KnownNames

namespace Engine

/-- The engine that a compiler makes for a catalog, unless one of the rules is refused. -/
def build (compiler : Compiler) (catalog : Catalog) : Except PatternError Engine :=
  ((Rule.ofCatalog catalog).mapM (Rule.compiled compiler)).map (⟨catalog, ·, compiler⟩)

/-- The engine of the program for a catalog. -/
def ofCatalog (catalog : Catalog) : Except PatternError Engine :=
  build .bounded catalog

/-- The first rule that is found in a line, with the span of its match. -/
def firstRule? (engine : Engine) (line : Line) : Option (Rule × Span) :=
  engine.rules.findSome? fun rule => (rule.pattern.find? line).map fun found => (rule, found.span)

/-- The diagnostic of a line, if there is one. Without known names the last tier is
left out. -/
def diagnoseLine (engine : Engine) (known : Option KnownNames) (numbered : Line × Nat) :
    Option Diagnostic :=
  let (line, index) := numbered
  match engine.firstRule? line with
  | some (rule, span) =>
    let columns := span.inUnits line
    some ⟨index, columns.start, columns.stop, rule.message, rule.severity, rule.tier⟩
  | none => do
    let span ← (← known).find? line
    let columns := span.inUnits line
    return ⟨index, columns.start, columns.stop, unknownIdentifierMessage, .warning,
      .unknownIdentifier⟩

/-- **The diagnostics of a document,** at most one for each line. -/
def diagnose (engine : Engine) (text : String) : List Diagnostic :=
  let identifiers := classify engine.catalog text
  let known := (KnownNames.ofIdentifiers engine.compiler engine.catalog identifiers).toOption
  (Text.lines text.toList).zipIdx.filterMap (engine.diagnoseLine known)

end Engine

end TurtleAssist
