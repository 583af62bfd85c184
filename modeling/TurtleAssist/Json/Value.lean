/-!
# JSON values

The trees that the library writes as JSON text. The numbers are integers, since
nothing that is written has another kind of number, and an object keeps its
members in the order in which they are given.

The text has no white space between tokens. Inside a string only what must be
escaped is escaped: the quotes, the backslash and the controls below the space,
five of which have short forms.
-/

namespace TurtleAssist

/-- A JSON value. -/
inductive Json where
  | null
  | bool (value : Bool)
  | number (value : Int)
  | string (value : String)
  | array (items : List Json)
  | object (members : List (String × Json))
deriving Repr, Inhabited

namespace Json

/-- A digit of base sixteen, in lower case. -/
def hexDigit (n : Nat) : Char :=
  Nat.digitChar (n % 16)

/-- A character as it stands in a string. -/
def escapeChar (c : Char) : List Char :=
  match c with
  | '"' => ['\\', '"']
  | '\\' => ['\\', '\\']
  | '\n' => ['\\', 'n']
  | '\r' => ['\\', 'r']
  | '\t' => ['\\', 't']
  | '\x08' => ['\\', 'b']
  | '\x0c' => ['\\', 'f']
  | c =>
    if c.toNat < 0x20 then ['\\', 'u', '0', '0', hexDigit (c.toNat / 16), hexDigit c.toNat]
    else [c]

/-- A string between its quotes. -/
def renderString (text : String) : List Char :=
  '"' :: text.toList.flatMap escapeChar ++ ['"']

mutual

/-- The text of a value. -/
def render : Json → List Char
  | .null => ['n', 'u', 'l', 'l']
  | .bool true => ['t', 'r', 'u', 'e']
  | .bool false => ['f', 'a', 'l', 's', 'e']
  | .number value => (toString value).toList
  | .string value => renderString value
  | .array items => '[' :: renderItems items ++ [']']
  | .object members => '\x7b' :: renderMembers members ++ ['\x7d']

/-- The items of an array with the commas between them. -/
def renderItems : List Json → List Char
  | [] => []
  | [item] => render item
  | item :: next :: items => render item ++ ',' :: renderItems (next :: items)

/-- The members of an object with the commas between them. -/
def renderMembers : List (String × Json) → List Char
  | [] => []
  | [(key, value)] => renderString key ++ ':' :: render value
  | (key, value) :: next :: members =>
    renderString key ++ ':' :: render value ++ ',' :: renderMembers (next :: members)

end

/-- The text of a value. -/
def text (json : Json) : String :=
  String.ofList json.render

/-- The object of the members that are there. -/
def ofMembers (members : List (Option (String × Json))) : Json :=
  .object (members.filterMap id)

/-- An array of strings. -/
def strings (texts : List String) : Json :=
  .array (texts.map .string)

end Json

end TurtleAssist
