import TurtleAssist.Text.Quoted

/-!
# Why a JSON text is refused

A text is refused at a position, for a cause. The causes of the first kind say
what is wrong with the text as JSON; those of the second kind say that the
value is not the one that was asked for. The message of a failure names both
the cause and the position.
-/

namespace TurtleAssist.Json

/-- A position in a text: the line, counted from one, and the number of bytes before
it in that line. -/
structure Position where
  line : Nat
  column : Nat
deriving DecidableEq, Repr, Inhabited

/-- What was found where something else was asked for. -/
inductive Found where
  | null
  | bool (value : Bool)
  | integer (value : Int)
  /-- A number that is no integer of sixty-four bits, by its decimal form. -/
  | decimal (form : String)
  | string (value : String)
  | array
  | object
deriving DecidableEq, Repr

/-- The words for what was found. -/
def Found.words : Found → String
  | .null => "null"
  | .bool value => "boolean `" ++ (if value then "true" else "false") ++ "`"
  | .integer value => "integer `" ++ toString value ++ "`"
  | .decimal form => "floating point `" ++ form ++ "`"
  | .string value => "string " ++ String.ofList (Text.quoted value.toList)
  | .array => "sequence"
  | .object => "map"

/-- Why a text is refused. -/
inductive Cause where
  | endOfValue
  | endOfArray
  | endOfObject
  | endOfString
  | expectedValue
  | expectedIdent
  | expectedColon
  | expectedCommaOrBracket
  | expectedCommaOrBrace
  | trailingComma
  | trailingCharacters
  | keyMustBeString
  | invalidNumber
  | numberOutOfRange
  | invalidEscape
  | loneSurrogate
  | unexpectedEndOfEscape
  | controlCharacter
  | wrongType (found : Found) (wanted : String)
  | wrongLength (present : Nat) (wanted : String)
  | duplicateField (key : String)
  | missingField (key : String)
deriving DecidableEq, Repr

/-- What is said of a cause. -/
def Cause.message : Cause → String
  | .endOfValue => "EOF while parsing a value"
  | .endOfArray => "EOF while parsing a list"
  | .endOfObject => "EOF while parsing an object"
  | .endOfString => "EOF while parsing a string"
  | .expectedValue => "expected value"
  | .expectedIdent => "expected ident"
  | .expectedColon => "expected `:`"
  | .expectedCommaOrBracket => "expected `,` or `]`"
  | .expectedCommaOrBrace => "expected `,` or `\x7d`"
  | .trailingComma => "trailing comma"
  | .trailingCharacters => "trailing characters"
  | .keyMustBeString => "key must be a string"
  | .invalidNumber => "invalid number"
  | .numberOutOfRange => "number out of range"
  | .invalidEscape => "invalid escape"
  | .loneSurrogate => "lone leading surrogate in hex escape"
  | .unexpectedEndOfEscape => "unexpected end of hex escape"
  | .controlCharacter => "control character (\\u0000-\\u001F) found while parsing a string"
  | .wrongType found wanted => "invalid type: " ++ found.words ++ ", expected " ++ wanted
  | .wrongLength present wanted => "invalid length " ++ toString present ++ ", expected " ++ wanted
  | .duplicateField key => "duplicate field `" ++ key ++ "`"
  | .missingField key => "missing field `" ++ key ++ "`"

/-- A cause and where it was noticed. -/
structure Failure where
  cause : Cause
  position : Position
deriving DecidableEq, Repr

/-- The message of a failure. -/
def Failure.message (failure : Failure) : String :=
  failure.cause.message ++ " at line " ++ toString failure.position.line
    ++ " column " ++ toString failure.position.column

end TurtleAssist.Json
