import TurtleAssist.Pattern.Way

/-!
# A first glance at a pattern

Most patterns are found in few lines, and most lines show it at once: what the
pattern must begin with stands nowhere in them. `Pattern.prospect` follows a
pattern from a place for as long as there is little choice. It answers with
places among which all the ways end, or gives up. If it answers that there is
none, no way leads through the pattern, and no outcome need be computed.
-/

namespace TurtleAssist.Pattern

/-- The number of places that are worth following. -/
def breadth : Nat := 8

/-- The places themselves, unless they are too many. -/
def fewPlaces (places : List Place) : Option (List Place) :=
  if places.length ≤ breadth then some places else none

/-- The places along a run of a set, unless there are more than so many. -/
def placesAlong (set : CharSet) : Nat → Place → Option (List Place)
  | 0, _ => none
  | n + 1, place =>
    if place.startsIn set then (placesAlong set n place.next).map (place :: ·)
    else some [place]

/-- Follows a step from each of the places. -/
def prospectFrom (step : Place → Option (List Place)) : List Place → Option (List Place)
  | [] => some []
  | [place] => step place
  | place :: places => do
    let ends ← step place
    let others ← prospectFrom step places
    fewPlaces (ends ++ others)

/-- Places among which all the ways through a pattern end, if they are few and easy to
tell. -/
def prospect : Pattern → Place → Option (List Place)
  | .empty, place => some [place]
  | .literal _ text, place => some (place.after? text).toList
  | .one set, place => some (if place.startsIn set then [place.next] else [])
  | .run set nonempty _, place =>
    if nonempty then
      if place.startsIn set then placesAlong set breadth place.next else some []
    else placesAlong set breadth place
  | .textStart, place => some (if place.offset = 0 then [place] else [])
  | .textEnd, place => some (if place.rest.isEmpty then [place] else [])
  | .seq first second, place => (first.prospect place).bind (prospectFrom second.prospect)
  | .alt preferred other, place => do
    let one ← preferred.prospect place
    let two ← other.prospect place
    fewPlaces (one ++ two)
  | .group body, place => body.prospect place
  | .capture _ body, place => body.prospect place
  | .times body quantifier, place =>
    if quantifier.least = 0 then none
    else
      match body.prospect place with
      | some [] => some []
      | _ => none

/-- Whether it shows at once that the pattern does not match at the place. -/
def isHopeless (pattern : Pattern) (place : Place) : Bool :=
  match pattern.prospect place with
  | some [] => true
  | _ => false

/-- Whether that shows for every place from one on. -/
def isHopelessFrom (pattern : Pattern) (offset : Nat) : List Char → Bool
  | [] => pattern.isHopeless ⟨offset, []⟩
  | c :: rest =>
    pattern.isHopeless ⟨offset, c :: rest⟩ && pattern.isHopelessFrom (offset + 1) rest

end TurtleAssist.Pattern
