import TurtleAssist.Pattern.Way

/-!
# The outlook from a place

To find out whether a pattern matches at a place, and how, it is not necessary
to list the ways through it. What matters is the *outcome*: the first way, in
the order of preference, from whose end what comes after the pattern succeeds
too. So a pattern is asked one question: given the outcome of what comes after
it, from every place, what is its own outcome from here?

The outcomes are found for all places of a line in one go, from the last place
to the first. To answer at a place, a part of a pattern needs only what comes
after it from the places further on: one character needs it from the next
place, a literal text from the place after the text, a run remembers its own
outcome from the next place, and a repetition its own outcome from all of them.
`Ahead` holds that for every part, and `Pattern.look` is the step from a place to
the one before it. The work is proportional to the length of the line, whatever
the line is.
-/

namespace TurtleAssist

open Text (Span)

namespace Pattern

/-- How a match ends: the number of characters before its end, the captures made on the
way to it in the order in which they begin, and the ends of those that have
begun before. -/
structure Outcome where
  stop : Nat
  captures : List Capture
  ends : List Nat
deriving DecidableEq, Repr

namespace Outcome

/-- The outcome of a match that ends here. -/
def finished (place : Place) : Outcome :=
  ⟨place.offset, [], []⟩

/-- The outcome before the end of a capture. -/
def ending (place : Place) (outcome : Outcome) : Outcome :=
  { outcome with ends := place.offset :: outcome.ends }

/-- The outcome before the beginning of a capture, the last one whose end is known. -/
def beginning (label : String) (place : Place) (outcome : Outcome) : Outcome :=
  match outcome.ends with
  | [] => outcome
  | stop :: ends => ⟨outcome.stop, ⟨label, place, stop⟩ :: outcome.captures, ends⟩

end Outcome

/-- What the parts of a pattern remember of the places further on. -/
inductive Ahead where
  /-- Nothing, also before any place has been passed. -/
  | nothing
  /-- An outcome from the next place. -/
  | next (outcome : Option Outcome)
  /-- The outcomes from all places further on, the next one first. -/
  | all (outcomes : List (Option Outcome))
  /-- What two parts remember. -/
  | both (first second : Ahead)
deriving Repr

namespace Ahead

/-- The outcome from the next place. -/
def outcome : Ahead → Option Outcome
  | .next outcome => outcome
  | _ => none

/-- The outcomes from the places further on. -/
def outcomes : Ahead → List (Option Outcome)
  | .all outcomes => outcomes
  | _ => []

/-- What the first part remembers. -/
def first : Ahead → Ahead
  | .both first _ => first
  | _ => .nothing

/-- What the second part remembers. -/
def second : Ahead → Ahead
  | .both _ second => second
  | _ => .nothing

end Ahead

/-- The view from a fixed place: from what is remembered of the places further on and
from the outcome of what comes after, the own outcome and what is to be
remembered of this place too. -/
abbrev View := Ahead → Option Outcome → Option Outcome × Ahead

namespace View

/-- One part after the other. -/
def compose (first second : View) : View := fun ahead after =>
  let (middle, secondAhead) := second ahead.second after
  let (outcome, firstAhead) := first ahead.first middle
  (outcome, .both firstAhead secondAhead)

/-- At most so many rounds of a step, more rounds first. -/
def upTo (step : View) : Nat → View
  | 0 => fun _ after => (after, .nothing)
  | n + 1 => fun ahead after =>
    let (outcome, remembered) := compose step (upTo step n) ahead after
    (outcome.or after, remembered)

/-- Any number of rounds of a step, more rounds first. A round that stays in place is not
followed by another, so from here the step is asked with no outcome after it;
from an earlier place it may end here and be followed. -/
def unbounded (step : View) : View := fun ahead after =>
  let outcome := (step ahead none).1.or after
  (outcome, (step ahead outcome).2)

/-- Exactly so many rounds of a step before a last part. -/
def exactly (step last : View) : Nat → View
  | 0 => last
  | n + 1 => compose step (exactly step last n)

/-- A repeated step. -/
def repeated (step : View) (quantifier : Quantifier) : View :=
  exactly step
    (match quantifier.most with
      | some most => upTo step (most - quantifier.least)
      | none => unbounded step)
    quantifier.least

end View

/-- **The step to a place** from those further on. -/
def look : Pattern → Place → View
  | .empty, _ => fun _ after => (after, .nothing)
  | .literal _ text, place => fun ahead after =>
    let outcomes := after :: ahead.outcomes
    (if text.isPrefixOf place.rest then outcomes[text.length]?.join else none, .all outcomes)
  | .one set, place => fun ahead after =>
    (if place.startsIn set then ahead.outcome else none, .next after)
  | .run set nonempty greedy, place => fun ahead after =>
    let further := if place.startsIn set then ahead.outcome else none
    let outcome := if greedy then further.or after else after.or further
    (if nonempty then further else outcome, .next outcome)
  | .textStart, place => fun _ after => (if place.offset = 0 then after else none, .nothing)
  | .textEnd, place => fun _ after => (if place.rest.isEmpty then after else none, .nothing)
  | .seq first second, place => View.compose (first.look place) (second.look place)
  | .alt preferred other, place => fun ahead after =>
    let (outcome, preferredAhead) := preferred.look place ahead.first after
    let (otherwise, otherAhead) := other.look place ahead.second after
    (outcome.or otherwise, .both preferredAhead otherAhead)
  | .group body, place => body.look place
  | .capture label body, place => fun ahead after =>
    let (outcome, remembered) := body.look place ahead (after.map (·.ending place))
    (outcome.map (·.beginning label place), remembered)
  | .times body quantifier, place => View.repeated (body.look place) quantifier

/-- The places of a line from the last to the first, in front of those given. -/
def placesBack (passed : List Place) (offset : Nat) : List Char → List Place
  | [] => ⟨offset, []⟩ :: passed
  | c :: rest => placesBack (⟨offset, c :: rest⟩ :: passed) (offset + 1) rest

/-- The outcomes of a pattern from the places of a line, from the first place to the
last, each with the number of characters before the place. -/
def outcomes (pattern : Pattern) (line : List Char) : List (Nat × Option Outcome) :=
  ((placesBack [] 0 line).foldl
    (fun (passed, ahead) place =>
      let (outcome, ahead) := pattern.look place ahead (some (.finished place))
      ((place.offset, outcome) :: passed, ahead))
    ([], Ahead.nothing)).1

end Pattern

end TurtleAssist
