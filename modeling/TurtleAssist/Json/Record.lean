import TurtleAssist.Json.Skip

/-!
# Reading records

A value is read for what it is wanted to be: a string, a Boolean, a list, or a
record. Whatever else stands in its place is named in the failure. If that is
a scalar it is read first, so an error in its own text comes before the remark
that it is the wrong value; a bracket is not even opened.

A record is described by a `Schema`: its title and its fields in order. It is
written as an object, with the keys in any order and with other keys ignored,
or as an array of the values of its fields in order. In both forms a field may
be left out if the record can be finished without it. The values read so far
are kept in a *draft*, and the schema says how a draft becomes a record.
-/

namespace TurtleAssist.Json

/-- A field of a record whose drafts have the type `σ`. -/
structure Field (σ : Type) where
  key : String
  /-- Reads the value and enters it into a draft. -/
  read : Reader (σ → σ)
  /-- Whether the draft already has a value for the field. -/
  isSet : σ → Bool

/-- The field of a key, given the reader of its value and its place in the draft. -/
def Field.of {σ β : Type} (key : String) (read : Reader β) (enter : β → σ → σ)
    (isSet : σ → Bool) : Field σ where
  key
  read := enter <$> read
  isSet

/-- How a record is read. -/
structure Schema (σ α : Type) where
  title : String
  fields : List (Field σ)
  /-- The draft without any values. -/
  blank : σ
  /-- The record of a draft, or the key of the first field that is missing. -/
  finish : σ → Except String α

namespace Schema

variable {σ α : Type}

/-- What a record is called where it was wanted. -/
def wanted (schema : Schema σ α) : String :=
  "struct " ++ schema.title

/-- What an array of the fields is called where it was too short. -/
def wantedLength (schema : Schema σ α) : String :=
  schema.wanted ++ " with " ++ toString schema.fields.length ++ " elements"

end Schema

namespace Reader

variable {σ α : Type}

/-- Refuses the scalar that begins with a sign, a digit, a quote or a letter, after
reading it; refuses brackets before they are opened. -/
def wrongType (c : Char) (wanted : String) : Reader α := do
  let found ←
    if c = 'n' then do
      skip
      literal ['u', 'l', 'l']
      pure .null
    else if c = 't' then do
      skip
      literal ['r', 'u', 'e']
      pure (.bool true)
    else if c = 'f' then do
      skip
      literal ['a', 'l', 's', 'e']
      pure (.bool false)
    else if c = '-' then do
      skip
      number true
    else if (digitValue? c).isSome then number false
    else if c = '"' then do
      skip
      .string <$> string
    else if c = '[' then pure .array
    else if c = '\x7b' then pure .object
    else failAhead .expectedValue
  failHere (.wrongType found wanted)

/-- Takes a string. -/
def text : Reader String := do
  match ← next with
  | none => failAhead .endOfValue
  | some '"' =>
    skip
    string
  | some c => wrongType c "a string"

/-- Takes a string or `null`. -/
def textOrNull : Reader (Option String) := do
  match ← next with
  | some 'n' =>
    skip
    literal ['u', 'l', 'l']
    return none
  | _ => some <$> text

/-- Takes a Boolean. -/
def boolean : Reader Bool := do
  match ← next with
  | none => failAhead .endOfValue
  | some 't' =>
    skip
    literal ['r', 'u', 'e']
    return true
  | some 'f' =>
    skip
    literal ['a', 'l', 's', 'e']
    return false
  | some c => wrongType c "a boolean"

/-- Passes over what stands before an item of an array, the comma unless the item is
the first one. The answer is whether there is an item. -/
def beforeItem (first : Bool) : Reader Bool := do
  match ← next with
  | none => failAhead .endOfArray
  | some c =>
    if c = ']' then return false
    else if first then return true
    else if c = ',' then
      skip
      match ← next with
      | none => failAhead .endOfValue
      | some ']' => failAhead .trailingComma
      | some _ => return true
    else failAhead .expectedCommaOrBracket

/-- Passes over what stands before the key of a member, the comma unless the member
is the first one, and over its opening quote. The answer is whether there is a
member. -/
def beforeKey (first : Bool) : Reader Bool := do
  match ← next with
  | none => failAhead .endOfObject
  | some c =>
    if c = '\x7d' then return false
    else if first then
      if c = '"' then
        skip
        return true
      else failAhead .keyMustBeString
    else if c = ',' then
      skip
      match ← next with
      | none => failAhead .endOfValue
      | some '"' =>
        skip
        return true
      | some '\x7d' => failAhead .trailingComma
      | some _ => failAhead .keyMustBeString
    else failAhead .expectedCommaOrBrace

/-- Passes over the colon between a key and its value. -/
def colon : Reader Unit := do
  match ← next with
  | some ':' => skip
  | some _ => failAhead .expectedColon
  | none => failAhead .endOfObject

/-- Takes the items of an array up to its end. Those taken before are in front, the
last one first. The rounds are bounded by the text that was left at the start. -/
def items (item : Reader α) : List Char → Bool → List α → Reader (List α)
  | [], _, _ => failHere .endOfArray
  | _ :: bound, first, taken => do
    if ← beforeItem first then
      let value ← item
      items item bound false (value :: taken)
    else
      skip
      return taken.reverse

/-- Takes a list of values of one kind. -/
def list (item : Reader α) : Reader (List α) := do
  match ← next with
  | none => failAhead .endOfValue
  | some '[' =>
    skip
    items item (← remaining) true []
  | some c => wrongType c "a sequence"

/-- Refuses a key that has come before. The end of the object, if it follows at once,
is still passed over. -/
def duplicateField (key : String) : Reader α := do
  match ← next with
  | some '\x7d' => skip
  | _ => pure ()
  failHere (.duplicateField key)

/-- Takes the members of an object into a draft, up to its end, which stays. The rounds
are bounded by the text that was left at the start. -/
def members (fields : List (Field σ)) : List Char → Bool → σ → Reader σ
  | [], _, _ => failHere .endOfObject
  | _ :: bound, first, draft => do
    if ← beforeKey first then
      let key ← string
      match fields.find? (·.key == key) with
      | some field =>
        if field.isSet draft then duplicateField key
        else
          colon
          let enter ← field.read
          members fields bound false (enter draft)
      | none =>
        colon
        skipValue
        members fields bound false draft
    else return draft

/-- Takes items of an array into a draft, one for each field, until the array or the
fields end. The answer includes the number of items taken. -/
def elements : List (Field σ) → Nat → σ → Reader (σ × Nat)
  | [], taken, draft => return (draft, taken)
  | field :: fields, taken, draft => do
    if ← beforeItem (taken == 0) then
      let enter ← field.read
      elements fields (taken + 1) (enter draft)
    else return (draft, taken)

/-- Passes over the end of an array of which nothing more is wanted. -/
def endOfElements : Reader Unit := do
  match ← next with
  | none => failAhead .endOfArray
  | some ']' => skip
  | some ',' =>
    skip
    match ← next with
    | some ']' => failAhead .trailingComma
    | _ => failAhead .trailingCharacters
  | some _ => failAhead .trailingCharacters

/-- Takes a record. -/
def record (schema : Schema σ α) : Reader α := do
  match ← next with
  | none => failAhead .endOfValue
  | some '\x7b' =>
    skip
    let draft ← members schema.fields (← remaining) true schema.blank
    skip
    match schema.finish draft with
    | .ok value => return value
    | .error key => failHere (.missingField key)
  | some '[' =>
    skip
    let (draft, taken) ← elements schema.fields 0 schema.blank
    match schema.finish draft with
    | .ok value =>
      endOfElements
      return value
    | .error _ =>
      skip
      failHere (.wrongLength taken schema.wantedLength)
  | some c => wrongType c schema.wanted

end Reader

end TurtleAssist.Json
