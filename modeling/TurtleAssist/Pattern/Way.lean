import TurtleAssist.Pattern.Basic
import TurtleAssist.Text.Span

/-!
# The ways through a pattern

A *place* in a line has characters before it, which are counted, and characters
after it. From a place a pattern can be followed in several *ways*, each of
which ends at a place and makes captures as it goes. The ways are ordered: an
alternative that is written first is preferred, a greedy repetition prefers to
go on, a lazy run prefers to stop.

`Pattern.ways` lists them, the preferred one first. It is what a pattern means,
read off its tree: patterns in a row compose, alternatives are put one list
after the other. It says nothing about how a match is found, since the list can
be long: that is the matter of the module on the outlook.
-/

namespace TurtleAssist

open Text (Span)

namespace Pattern

/-- A place in a line: the number of characters before it and the characters after
it. -/
structure Place where
  offset : Nat
  rest : List Char
deriving DecidableEq, Repr

/-- A stretch of a line remembered under a label: the place where it begins, and the
number of characters before its end. -/
structure Capture where
  label : String
  start : Place
  stop : Nat
deriving DecidableEq, Repr

/-- The stretch as a span. -/
def Capture.span (capture : Capture) : Span :=
  ⟨capture.start.offset, capture.stop⟩

/-- The characters of the stretch. -/
def Capture.text (capture : Capture) : List Char :=
  capture.start.rest.take (capture.stop - capture.start.offset)

/-- A way through a pattern: the place where it ends, and the captures made on it in
the order in which they begin. -/
structure Way where
  stop : Place
  captures : List Capture
deriving DecidableEq, Repr

/-- The place after a text, if the text stands here. -/
def Place.after? : List Char → Place → Option Place
  | [], place => some place
  | c :: text, place =>
    match place.rest with
    | [] => none
    | x :: rest => if x = c then Place.after? text ⟨place.offset + 1, rest⟩ else none

/-- Whether a character of the set stands here. -/
def Place.startsIn (place : Place) (set : CharSet) : Bool :=
  match place.rest with
  | [] => false
  | c :: _ => set.contains c

/-- The next place, and the same one at the end of the line. -/
def Place.next (place : Place) : Place :=
  match place.rest with
  | [] => place
  | _ :: rest => ⟨place.offset + 1, rest⟩

namespace Way

/-- The way that stays where it is. -/
def stay (place : Place) : Way :=
  ⟨place, []⟩

/-- The ways that go on from the end of a way. -/
def onward (way : Way) (next : Place → List Way) : List Way :=
  (next way.stop).map fun further => ⟨further.stop, way.captures ++ further.captures⟩

/-- The ways along a run of a set. Before the run goes on or after that, as it is lazy
or greedy, it may stop. -/
def along (set : CharSet) (greedy : Bool) (offset : Nat) : List Char → List Way
  | [] => [stay ⟨offset, []⟩]
  | c :: rest =>
    let here := [stay ⟨offset, c :: rest⟩]
    let further := if set.contains c then along set greedy (offset + 1) rest else []
    if greedy then further ++ here else here ++ further

/-- One step after the other. -/
def compose (first second : Place → List Way) (place : Place) : List Way :=
  (first place).flatMap (·.onward second)

/-- Exactly so many rounds of a step. -/
def exactly (step : Place → List Way) : Nat → Place → List Way
  | 0, place => [stay place]
  | n + 1, place => compose step (exactly step n) place

/-- At most so many rounds of a step, more rounds first. -/
def upTo (step : Place → List Way) : Nat → Place → List Way
  | 0, place => [stay place]
  | n + 1, place => compose step (upTo step n) place ++ [stay place]

/-- Any number of rounds of a step, more rounds first. Only a round that comes nearer to
the end of the line is followed by another one, so as many rounds as there are
characters left are enough. -/
def unbounded (step : Place → List Way) : Nat → Place → List Way
  | 0, place => [stay place]
  | n + 1, place =>
    ((step place).filter (place.offset < ·.stop.offset)).flatMap (·.onward (unbounded step n))
      ++ [stay place]

/-- The rounds of a step beyond the least number. -/
def beyondLeast (step : Place → List Way) (quantifier : Quantifier) (place : Place) : List Way :=
  match quantifier.most with
  | some most => upTo step (most - quantifier.least) place
  | none => unbounded step place.rest.length place

end Way

open Way

/-- **The ways through a pattern** from a place, the preferred one first. -/
def ways : Pattern → Place → List Way
  | .empty, place => [stay place]
  | .literal _ text, place => ((place.after? text).map stay).toList
  | .one set, place => if place.startsIn set then [stay place.next] else []
  | .run set nonempty greedy, place =>
    if nonempty then
      if place.startsIn set then along set greedy place.next.offset place.next.rest else []
    else along set greedy place.offset place.rest
  | .textStart, place => if place.offset = 0 then [stay place] else []
  | .textEnd, place => if place.rest.isEmpty then [stay place] else []
  | .seq first second, place => compose first.ways second.ways place
  | .alt preferred other, place => preferred.ways place ++ other.ways place
  | .group body, place => body.ways place
  | .capture label body, place =>
    (body.ways place).map fun way =>
      ⟨way.stop, ⟨label, place, way.stop.offset⟩ :: way.captures⟩
  | .times body quantifier, place =>
    compose (exactly body.ways quantifier.least) (beyondLeast body.ways quantifier) place

end Pattern

end TurtleAssist
