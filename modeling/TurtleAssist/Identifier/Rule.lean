import TurtleAssist.Pattern.Match
import TurtleAssist.Text.Line
import TurtleAssist.Text.Run

/-!
# Recognising what a line defines

A document is not parsed: a line is recognised as a definition by its shape.
Five rules are tried in order and the first that has a match decides. Two
describe functions, one for each way to write the parameters; the rule for
variables would accept both, so it comes after them. The last two are for
data that is worth offering again, colors and the vectors of moves.

Each rule captures the name under the label `name`; the rules for functions
capture the parameter list under the label `args`.
-/

namespace TurtleAssist

open Text (Line)

/-- What an identifier of a document stands for. -/
inductive Role where
  | variable
  | function
  | color
  | vector
deriving DecidableEq, Repr, Inhabited

/-- The word for a role. -/
def Role.word : Role → String
  | .variable => "variable"
  | .function => "function"
  | .color => "color"
  | .vector => "vector"

/-- How a role is described to the user. -/
def Role.description (role : Role) : String :=
  "A possible user defined **" ++ role.word ++ "**"

/-- A shape of line that gives a name a role. -/
structure IdentifierRule where
  role : Role
  pattern : Pattern
deriving DecidableEq, Repr

/-- A line recognised by a rule. -/
structure Recognition where
  rule : IdentifierRule
  found : Pattern.Match
deriving DecidableEq, Repr

namespace IdentifierRule

open Pattern

/-- A definition, given what follows the keyword and the white space after it. -/
def define (defined : Pattern) : Pattern :=
  opened (blanks ++ text "define" ++ gap ++ defined)

/-- A function with its parameters beside its name: `(define (f x y) ...)`. -/
def procedure : IdentifierRule where
  role := .function
  pattern := define
    (text "(" ++ .capture "name" identifier
      ++ .times (.group (gap ++ .capture "args" (.run .nonParen false false))) .optional
      ++ blanks ++ text ")")

/-- A function with its parameters after its name: `(define f (x y) ...)`. Something
must follow the list after white space and before the parenthesis is closed,
or the list would be the value of a variable. -/
def binding : IdentifierRule where
  role := .function
  pattern := define
    (.capture "name" identifier ++ gap ++ text "("
      ++ .capture "args"
        (blanks ++ .times (.group (.group (.alt identifier (text ".")) ++ blanks)) .star)
      ++ text ")" ++ gap ++ .one (.noneOf [.space, .single ')']))

/-- A variable: `(define x ...)`. -/
def value : IdentifierRule where
  role := .variable
  pattern := define (.capture "name" identifier)

/-- A color: three numbers between parentheses. -/
def color : IdentifierRule where
  role := .color
  pattern := .capture "name"
    (opened (blanks ++ digits ++ gap ++ digits ++ gap ++ digits ++ blanks ++ text ")"))

/-- A vector: the two integers of a move. -/
def vector : IdentifierRule where
  role := .vector
  pattern := opened
    (.group (.alt (text "move-on") (text "move-to")) ++ gap
      ++ .capture "name" (integer ++ gap ++ integer) ++ text ")")

/-- The rules in the order in which they are tried. -/
def all : List IdentifierRule :=
  [procedure, binding, value, color, vector]

end IdentifierRule

/-- The first rule that has a match in the line, with that match. -/
def classifyLine (line : Line) : Option Recognition :=
  IdentifierRule.all.findSome? fun rule => (rule.pattern.find? line).map fun found => ⟨rule, found⟩

namespace Recognition

/-- The captured name. -/
def name (recognition : Recognition) : String :=
  match recognition.found.capture? "name" with
  | some capture => String.ofList capture.text
  | none => ""

/-- The captured parameters: the tokens of the list, without the dot that marks a
variadic tail. -/
def parameters (recognition : Recognition) : List String :=
  match recognition.found.capture? "args" with
  | some capture => ((Text.tokens capture.text).map String.ofList).filter (· != ".")
  | none => []

end Recognition

/-- The parameters of the function that the line defines, if it defines one. -/
def lineParameters (line : Line) : List String :=
  match classifyLine line with
  | some recognition =>
    if recognition.rule.role = .function then recognition.parameters else []
  | none => []

end TurtleAssist
