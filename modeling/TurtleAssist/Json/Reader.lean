import TurtleAssist.Json.Failure

/-!
# Reading JSON text

A reader takes a value from the front of the text that is left and leaves the
rest, or refuses the text. What is left is an `Input`: the characters, and the
position that the characters before them have reached.

A failure is noticed at one of two places. *Here* is the position reached so
far; it is used for what has been read. *Ahead* is the position after the next
byte; it is used for what has only been looked at. At the end of the text the
two agree. A byte that begins a longer character counts by itself, so a
position may lie inside a character.
-/

namespace TurtleAssist.Json

/-- The position after one more byte, given the character that it begins. -/
def Position.afterByte (position : Position) (c : Char) : Position :=
  if c = '\n' then ⟨position.line + 1, 0⟩ else ⟨position.line, position.column + 1⟩

/-- The position after one more character. -/
def Position.after (position : Position) (c : Char) : Position :=
  if c = '\n' then ⟨position.line + 1, 0⟩ else ⟨position.line, position.column + c.utf8Size⟩

/-- What is left of a text. -/
structure Input where
  rest : List Char
  position : Position
deriving Repr, Inhabited

namespace Input

/-- A text of which nothing has been read. -/
def ofText (text : List Char) : Input :=
  ⟨text, ⟨1, 0⟩⟩

/-- The position after the next byte, or the one reached if nothing is left. -/
def ahead (input : Input) : Position :=
  match input.rest with
  | [] => input.position
  | c :: _ => input.position.afterByte c

/-- What is left after one character. -/
def tail (input : Input) : Input :=
  match input.rest with
  | [] => input
  | c :: rest => ⟨rest, input.position.after c⟩

/-- A failure at the position reached so far. -/
def failHere (input : Input) (cause : Cause) : Failure :=
  ⟨cause, input.position⟩

/-- A failure after the next byte. -/
def failAhead (input : Input) (cause : Cause) : Failure :=
  ⟨cause, input.ahead⟩

end Input

/-- Takes a value from the front of the input. -/
abbrev Reader := StateT Input (Except Failure)

/-- White space between tokens. -/
def isBlank (c : Char) : Bool :=
  c == ' ' || c == '\n' || c == '\t' || c == '\r'

/-- The input after characters that pass a test. -/
def dropWhileFrom (test : Char → Bool) (position : Position) : List Char → Input
  | [] => ⟨[], position⟩
  | c :: rest =>
    if test c then dropWhileFrom test (position.after c) rest else ⟨c :: rest, position⟩

namespace Input

/-- The input after characters that pass a test. -/
def dropWhile (input : Input) (test : Char → Bool) : Input :=
  dropWhileFrom test input.position input.rest

end Input

namespace Reader

/-- Refuses the input at the position reached so far. -/
def failHere {α : Type} (cause : Cause) : Reader α := fun input => .error (input.failHere cause)

/-- Refuses the input after the next byte. -/
def failAhead {α : Type} (cause : Cause) : Reader α := fun input => .error (input.failAhead cause)

/-- The next character, which stays in the input. -/
def peek : Reader (Option Char) := fun input => .ok (input.rest.head?, input)

/-- Passes over one character. -/
def skip : Reader Unit := fun input => .ok ((), input.tail)

/-- Passes over white space. -/
def blanks : Reader Unit := fun input => .ok ((), input.dropWhile isBlank)

/-- Passes over white space and looks at the next character. -/
def next : Reader (Option Char) := do
  blanks
  peek

/-- Passes over the rest of a literal name. -/
def literal : List Char → Reader Unit
  | [] => pure ()
  | c :: expected => fun input =>
    match input.rest with
    | [] => .error (input.failHere .endOfValue)
    | x :: _ =>
      if x = c then literal expected input.tail else .error (input.failAhead .expectedIdent)

/-- The text that is left, which stays in the input. A loop that takes at least one
character in each round makes at most as many rounds as this text has characters,
so the text itself serves as the bound that the loop counts down. -/
def remaining : Reader (List Char) := fun input => .ok (input.rest, input)

/-- Runs a reader on a whole text. Only white space may follow the value. -/
def run {α : Type} (reader : Reader α) (text : List Char) : Except Failure α := do
  let (value, input) ← reader (Input.ofText text)
  let left := input.dropWhile isBlank
  if left.rest.isEmpty then return value else throw (left.failAhead .trailingCharacters)

end Reader

end TurtleAssist.Json
