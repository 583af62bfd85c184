import Mathlib.Data.List.Basic
import TurtleAssist.Pattern.Outlook
import TurtleAssist.Proofs.Pattern.Passage

/-!
# The outlook finds the preferred way

The outcomes of a pattern are computed for all places of a line in one go,
without a list of ways. This module proves that they are what the ways say: at
each place the outcome is that of the first way (`outcomes_eq`).

What a part of a pattern is asked for is its `answer`: the first of its ways
from whose end what comes after succeeds. Answers compose as steps do
(`answer_compose`, `answer_append`), and an unbounded repetition answers by one
round that comes nearer to the end, and by itself from there
(`answer_repeatedly`).

The views of a pattern are handed a memory of the places further on. `memory` is
the memory that they make themselves, going back from the end of the line, and a
family of views `Tells` of a step if with that memory it gives the step's
answers, whatever comes after. Each way to put views together tells of the
steps put together alike, and so `tells_look` follows the pattern.
-/

namespace TurtleAssist.Pattern

open Way

variable {first second step : Place → List Way} {after : Place → Option Outcome}

/-! ## The answer of a step -/

/-- The outcome, with captures made before it. -/
def Outcome.withCaptures (captures : List Capture) (outcome : Outcome) : Outcome :=
  { outcome with captures := captures ++ outcome.captures }

/-- **The answer of a step**, given the outcomes of what comes after it: that of the
first way from whose end there is one. -/
def answer (step : Place → List Way) (after : Place → Option Outcome) (place : Place) :
    Option Outcome :=
  (step place).findSome? fun way => (after way.stop).map (·.withCaptures way.captures)

theorem answer_stay (after : Place → Option Outcome) (place : Place) :
    answer (fun place => [stay place]) after place = after place := by
  unfold answer
  rw [List.findSome?_singleton]
  show (after place).map id = after place
  rw [Option.map_id_fun, id]

theorem findSome?_onward (way : Way) (next : Place → List Way) (after : Place → Option Outcome) :
    (way.onward next).findSome? (fun further => (after further.stop).map
        (·.withCaptures further.captures))
      = (answer next after way.stop).map (·.withCaptures way.captures) := by
  rw [onward, List.findSome?_map, answer, List.map_findSome?]
  refine congrArg (List.findSome? · (next way.stop)) (funext fun further => ?_)
  cases h : after further.stop <;> simp [h, Outcome.withCaptures]

/-- The answer of two steps is that of the first, with the second's after it. -/
theorem answer_compose (first second : Place → List Way) (after : Place → Option Outcome) :
    answer (compose first second) after = answer first (answer second after) := by
  funext place
  show ((first place).flatMap (·.onward second)).findSome? _ = (first place).findSome? _
  induction first place with
  | nil => rfl
  | cons way ways ih =>
    rw [List.flatMap_cons, List.findSome?_append, ih, findSome?_onward, List.findSome?_cons]
    cases (answer second after way.stop).map (·.withCaptures way.captures) <;> rfl

/-- The answer of alternatives is the preferred one's, or else the other's. -/
theorem answer_append (first second : Place → List Way) (after : Place → Option Outcome)
    (place : Place) :
    answer (fun place => first place ++ second place) after place
      = (answer first after place).or (answer second after place) :=
  List.findSome?_append

/-- The outcomes that count from a place: those from places further on. -/
def beyond (place : Place) (after : Place → Option Outcome) (stop : Place) : Option Outcome :=
  if stop.offset ≤ place.offset then none else after stop

theorem answer_further (step : Place → List Way) (after : Place → Option Outcome)
    (place : Place) :
    answer (further step) after place = answer step (beyond place after) place := by
  unfold answer further
  induction step place with
  | nil => rfl
  | cons way ways ih =>
    by_cases hfar : place.offset < way.stop.offset
    · rw [List.filter_cons_of_pos (by simpa using hfar), List.findSome?_cons,
        List.findSome?_cons, ih, beyond, if_neg (Nat.not_le.mpr hfar)]
    · rw [List.filter_cons_of_neg (by simpa using hfar), List.findSome?_cons, ih,
        beyond, if_pos (Nat.not_lt.mp hfar), Option.map_none]

/-- **An unbounded repetition answers by a round and itself**: by the first round that
comes nearer to the end and from whose end the repetition answers, and without
one by what comes after. -/
theorem answer_repeatedly (h : Advances step) (after : Place → Option Outcome) (place : Place) :
    answer (repeatedly step) after place
      = (answer step (beyond place (answer (repeatedly step) after)) place).or (after place) := by
  rw [← answer_further, ← answer_compose]
  conv_rhs => rw [← answer_stay after place]
  rw [← answer_append]
  exact congrArg (List.findSome? _) (repeatedly_eq h place)

/-! ## The memory of the places further on -/

/-- **The memory of a family of views** at the place with so many characters before it
and these after it: what the views remember of the places further on. -/
def memory (view : Place → View) (after : Place → Option Outcome) (offset : Nat) :
    List Char → Ahead
  | [] => .nothing
  | _ :: rest =>
    (view ⟨offset + 1, rest⟩ (memory view after (offset + 1) rest) (after ⟨offset + 1, rest⟩)).2

/-- **The views give the answers of the step**, with the memory that they make and
whatever comes after. -/
def Tells (view : Place → View) (step : Place → List Way) : Prop :=
  ∀ after offset rest,
    (view ⟨offset, rest⟩ (memory view after offset rest) (after ⟨offset, rest⟩)).1
      = answer step after ⟨offset, rest⟩

variable {view view' : Place → View}

/-- A view that remembers what another one does with other outcomes has the memory of
that view. -/
theorem memory_eq_of_snd (view view' : Place → View)
    (change : Place → Option Outcome → Option Outcome)
    (h : ∀ place ahead now, (view place ahead now).2 = (view' place ahead (change place now)).2)
    (after : Place → Option Outcome) (offset : Nat) (rest : List Char) :
    memory view after offset rest
      = memory view' (fun place => change place (after place)) offset rest := by
  induction rest generalizing offset with
  | nil => rfl
  | cons c rest ih => rw [memory, memory, h, ih]

/-- Only the places further on count. -/
theorem memory_congr {after after' : Place → Option Outcome} {offset : Nat} {rest : List Char}
    (h : ∀ place, offset < place.offset → after place = after' place) :
    memory view after offset rest = memory view after' offset rest := by
  induction rest generalizing offset with
  | nil => rfl
  | cons c rest ih =>
    rw [memory, memory, ih fun place hplace => h place (Nat.lt_of_succ_lt hplace),
      h ⟨offset + 1, rest⟩ (Nat.lt_succ_self offset)]

theorem Tells.congr (h : Tells view first)
    (hanswer : ∀ after, answer first after = answer second after) : Tells view second :=
  fun after offset rest => (h after offset rest).trans (congrFun (hanswer after) _)

theorem memory_compose (view : Place → View) (h : Tells view' second)
    (after : Place → Option Outcome) (offset : Nat) (rest : List Char) :
    (memory (fun place => View.compose (view place) (view' place)) after offset rest).first
        = memory view (answer second after) offset rest
      ∧ (memory (fun place => View.compose (view place) (view' place)) after offset rest).second
        = memory view' after offset rest := by
  induction rest generalizing offset with
  | nil => exact ⟨rfl, rfl⟩
  | cons c rest ih =>
    obtain ⟨hfirst, hsecond⟩ := ih (offset + 1)
    rw [memory, memory, memory, ← h after (offset + 1) rest, ← hfirst, ← hsecond]
    exact ⟨rfl, rfl⟩

/-- Views one after the other tell of steps one after the other. -/
theorem Tells.compose (h₁ : Tells view first) (h₂ : Tells view' second) :
    Tells (fun place => View.compose (view place) (view' place)) (compose first second) := by
  intro after offset rest
  obtain ⟨hfirst, hsecond⟩ := memory_compose view h₂ after offset rest
  rw [answer_compose, ← h₁ (answer second after), ← h₂ after, ← hfirst, ← hsecond]
  rfl

theorem Tells.upTo (h : Tells view step) (n : Nat) :
    Tells (fun place => View.upTo (view place) n) (upTo step n) := by
  induction n with
  | zero => exact fun after offset rest => (answer_stay after ⟨offset, rest⟩).symm
  | succ n ih =>
    intro after offset rest
    have hmemory : memory (fun place => View.upTo (view place) (n + 1)) after offset rest
        = memory (fun place => View.compose (view place) (View.upTo (view place) n)) after
            offset rest :=
      memory_eq_of_snd (fun place => View.upTo (view place) (n + 1))
        (fun place => View.compose (view place) (View.upTo (view place) n))
        (fun _ now => now) (fun _ _ _ => rfl) after offset rest
    have hround := (h.compose ih) after offset rest
    show ((View.compose (view _) (View.upTo (view _) n) _ _).1).or _ = _
    rw [hmemory, hround]
    exact (congrArg _ (answer_stay after ⟨offset, rest⟩).symm).trans
      (answer_append _ _ after ⟨offset, rest⟩).symm

/-- Two views side by side, the first preferred. -/
def View.either (first second : View) : View := fun ahead now =>
  let (outcome, firstAhead) := first ahead.first now
  let (otherwise, secondAhead) := second ahead.second now
  (outcome.or otherwise, .both firstAhead secondAhead)

theorem memory_either (view view' : Place → View) (after : Place → Option Outcome)
    (offset : Nat) (rest : List Char) :
    (memory (fun place => View.either (view place) (view' place)) after offset rest).first
        = memory view after offset rest
      ∧ (memory (fun place => View.either (view place) (view' place)) after offset rest).second
        = memory view' after offset rest := by
  induction rest generalizing offset with
  | nil => exact ⟨rfl, rfl⟩
  | cons c rest ih =>
    obtain ⟨hfirst, hsecond⟩ := ih (offset + 1)
    rw [memory, memory, memory, ← hfirst, ← hsecond]
    exact ⟨rfl, rfl⟩

/-- Views side by side tell of steps put side by side. -/
theorem Tells.either (h₁ : Tells view first) (h₂ : Tells view' second) :
    Tells (fun place => View.either (view place) (view' place))
      (fun place => first place ++ second place) := by
  intro after offset rest
  obtain ⟨hfirst, hsecond⟩ := memory_either view view' after offset rest
  rw [answer_append, ← h₁ after, ← h₂ after, ← hfirst, ← hsecond]
  rfl

theorem memory_unbounded (hstep : Advances step) (h : Tells view step)
    (after : Place → Option Outcome) (offset : Nat) (rest : List Char) :
    memory (fun place => View.unbounded (view place)) after offset rest
        = memory view (answer (repeatedly step) after) offset rest
      ∧ (View.unbounded (view ⟨offset, rest⟩)
          (memory view (answer (repeatedly step) after) offset rest) (after ⟨offset, rest⟩)).1
        = answer (repeatedly step) after ⟨offset, rest⟩ := by
  -- a round is asked with no outcome here, so it answers from the places further on
  have hanswer : ∀ offset rest,
      (View.unbounded (view ⟨offset, rest⟩)
          (memory view (answer (repeatedly step) after) offset rest) (after ⟨offset, rest⟩)).1
        = answer (repeatedly step) after ⟨offset, rest⟩ := by
    intro offset rest
    have hfurther := h (beyond ⟨offset, rest⟩ (answer (repeatedly step) after)) offset rest
    have hmemory : memory view (beyond ⟨offset, rest⟩ (answer (repeatedly step) after)) offset rest
        = memory view (answer (repeatedly step) after) offset rest :=
      memory_congr fun place hplace => if_neg (Nat.not_le.mpr hplace)
    have hhere : beyond ⟨offset, rest⟩ (answer (repeatedly step) after) ⟨offset, rest⟩ = none :=
      if_pos (Nat.le_refl offset)
    rw [hmemory, hhere] at hfurther
    rw [answer_repeatedly hstep, ← hfurther]
    rfl
  refine ⟨?_, hanswer offset rest⟩
  induction rest generalizing offset with
  | nil => rfl
  | cons c rest ih =>
    rw [memory, memory, ih, ← hanswer (offset + 1) rest]
    rfl

theorem Tells.unbounded (hstep : Advances step) (h : Tells view step) :
    Tells (fun place => View.unbounded (view place))
      (repeatedly step) := by
  intro after offset rest
  obtain ⟨hmemory, hanswer⟩ := memory_unbounded hstep h after offset rest
  rw [hmemory]
  exact hanswer

theorem Tells.exactly (h : Tells view step) (hlast : Tells view' second) (n : Nat) :
    Tells (fun place => View.exactly (view place) (view' place) n)
      (Way.compose (exactly step n) second) := by
  induction n with
  | zero =>
    refine hlast.congr fun after => ?_
    rw [answer_compose]
    exact (funext fun place => answer_stay _ place).symm
  | succ n ih =>
    refine (h.compose ih).congr fun after => ?_
    rw [answer_compose, answer_compose, answer_compose (Way.exactly step (n + 1))]
    exact (answer_compose step (Way.exactly step n) (answer second after)).symm

theorem Tells.repeated (hstep : Advances step) (h : Tells view step) (quantifier : Quantifier) :
    Tells (fun place => View.repeated (view place) quantifier)
      (Way.compose (Way.exactly step quantifier.least) (beyondLeast step quantifier)) := by
  unfold View.repeated
  cases hmost : quantifier.most with
  | some most =>
    have hbeyond : beyondLeast step quantifier = Way.upTo step (most - quantifier.least) := by
      funext place
      rw [beyondLeast, hmost]
    rw [hbeyond]
    exact h.exactly (h.upTo _) _
  | none =>
    have hbeyond : beyondLeast step quantifier = repeatedly step := by
      funext place
      rw [beyondLeast, hmost]
      rfl
    rw [hbeyond]
    exact h.exactly (h.unbounded hstep) _

/-! ## The leaves of a pattern -/

/-- The places of a line from one on, the first one first. -/
def placesFrom (offset : Nat) : List Char → List Place
  | [] => [⟨offset, []⟩]
  | c :: rest => ⟨offset, c :: rest⟩ :: placesFrom (offset + 1) rest

theorem getElem?_placesFrom (offset n : Nat) (rest : List Char) :
    (placesFrom offset rest)[n]?
      = if n ≤ rest.length then some ⟨offset + n, rest.drop n⟩ else none := by
  induction rest generalizing offset n with
  | nil => cases n <;> rfl
  | cons c rest ih =>
    cases n with
    | zero => rfl
    | succ n =>
      rw [placesFrom, List.getElem?_cons_succ, ih, List.length_cons, List.drop_succ_cons,
        Nat.add_right_comm offset 1 n]
      exact if_congr Nat.succ_le_succ_iff.symm rfl rfl

/-- The place after a text, by what is in front. -/
theorem Place.after?_eq (text : List Char) (offset : Nat) (rest : List Char) :
    Place.after? text ⟨offset, rest⟩
      = if text.isPrefixOf rest then some ⟨offset + text.length, rest.drop text.length⟩
        else none := by
  by_cases h : text.isPrefixOf rest = true
  · obtain ⟨last, rfl⟩ := List.isPrefixOf_iff_prefix.mp h
    rw [if_pos h, List.drop_left]
    exact Place.after?_eq_some.mpr (Place.reads_append offset text last)
  · rw [if_neg h, Option.eq_none_iff_forall_ne_some]
    intro stop hstop
    exact h (List.isPrefixOf_iff_prefix.mpr ⟨stop.rest, (Place.after?_eq_some.mp hstop).1.symm⟩)

theorem memory_literal (spelling : Spelling) (text : List Char) (after : Place → Option Outcome)
    (offset : Nat) (rest : List Char) :
    after ⟨offset, rest⟩
        :: (memory (Pattern.literal spelling text).look after offset rest).outcomes
      = (placesFrom offset rest).map after := by
  induction rest generalizing offset with
  | nil => rfl
  | cons c rest ih => exact congrArg (after ⟨offset, c :: rest⟩ :: ·) (ih (offset + 1))

theorem tells_literal (spelling : Spelling) (text : List Char) :
    Tells (Pattern.literal spelling text).look (Pattern.literal spelling text).ways := by
  intro after offset rest
  have hways : answer (Pattern.literal spelling text).ways after ⟨offset, rest⟩
      = (Place.after? text ⟨offset, rest⟩).bind after := by
    unfold answer
    rw [ways]
    cases Place.after? text ⟨offset, rest⟩ with
    | none => rfl
    | some stop => exact answer_stay after stop
  rw [hways, Place.after?_eq]
  show (if text.isPrefixOf rest then
      (after ⟨offset, rest⟩ :: (memory (Pattern.literal spelling text).look after offset
        rest).outcomes)[text.length]?.join
      else none) = _
  rw [memory_literal]
  by_cases h : text.isPrefixOf rest = true
  · have hle : text.length ≤ rest.length := (List.isPrefixOf_iff_prefix.mp h).length_le
    rw [if_pos h, if_pos h, List.getElem?_map, getElem?_placesFrom, if_pos hle]
    rfl
  · rw [if_neg h, if_neg h]
    rfl

theorem tells_one (set : CharSet) : Tells (Pattern.one set).look (Pattern.one set).ways := by
  intro after offset rest
  cases rest with
  | nil => rfl
  | cons c rest =>
    show (if set.contains c then after ⟨offset + 1, rest⟩ else none) = answer _ after _
    unfold answer
    rw [ways]
    by_cases h : set.contains c = true
    · rw [if_pos h, show Place.startsIn ⟨offset, c :: rest⟩ set = true from h, if_pos rfl]
      exact (answer_stay after ⟨offset + 1, rest⟩).symm
    · rw [if_neg h, if_neg (show ¬ Place.startsIn ⟨offset, c :: rest⟩ set = true from h)]
      rfl

/-- The answer along a run: its own answer from the next place, if the run goes on, and
what comes after, in the order that the run prefers. -/
theorem answer_along (set : CharSet) (greedy : Bool) (after : Place → Option Outcome)
    (offset : Nat) (c : Char) (rest : List Char) :
    answer (fun place => along set greedy place.offset place.rest) after ⟨offset, c :: rest⟩
      = let further := if set.contains c then
          answer (fun place => along set greedy place.offset place.rest) after ⟨offset + 1, rest⟩
          else none
        if greedy then further.or (after ⟨offset, c :: rest⟩)
        else (after ⟨offset, c :: rest⟩).or further := by
  have hstay := answer_stay after ⟨offset, c :: rest⟩
  unfold answer at hstay ⊢
  cases greedy <;> by_cases h : set.contains c = true <;>
    simp only [along, h, if_true, if_false, Bool.false_eq_true, List.findSome?_append, hstay,
      List.findSome?_nil]

/-- What a run remembers of a place is its answer there, as if it could be empty. -/
theorem look_run_snd (set : CharSet) (nonempty greedy : Bool) (after : Place → Option Outcome)
    (offset : Nat) (rest : List Char) :
    ((Pattern.run set nonempty greedy).look ⟨offset, rest⟩
        (memory (Pattern.run set nonempty greedy).look after offset rest) (after ⟨offset, rest⟩)).2
      = .next (answer (fun place => along set greedy place.offset place.rest) after
          ⟨offset, rest⟩) := by
  induction rest generalizing offset with
  | nil =>
    refine congrArg Ahead.next ?_
    rw [show answer (fun place => along set greedy place.offset place.rest) after ⟨offset, []⟩
      = after ⟨offset, []⟩ from answer_stay after ⟨offset, []⟩]
    cases greedy
    · exact Option.or_none
    · rfl
  | cons c rest ih =>
    rw [memory, ih, answer_along]
    rfl

theorem tells_run (set : CharSet) (nonempty greedy : Bool) :
    Tells (Pattern.run set nonempty greedy).look (Pattern.run set nonempty greedy).ways := by
  intro after offset rest
  have hsnd := look_run_snd set nonempty greedy after offset rest
  cases nonempty with
  | false => exact Ahead.next.inj hsnd
  | true =>
    cases rest with
    | nil => rfl
    | cons c rest =>
      rw [memory, look_run_snd]
      unfold answer
      rw [ways, if_pos rfl]
      by_cases h : set.contains c = true
      · rw [if_pos (show Place.startsIn ⟨offset, c :: rest⟩ set = true from h)]
        exact if_pos (show Place.startsIn ⟨offset, c :: rest⟩ set = true from h)
      · rw [if_neg (show ¬ Place.startsIn ⟨offset, c :: rest⟩ set = true from h)]
        exact if_neg (show ¬ Place.startsIn ⟨offset, c :: rest⟩ set = true from h)

/-- The answer of a capture adds the stretch that the body reads. -/
theorem answer_capture (label : String) (body : Pattern) (after : Place → Option Outcome)
    (place : Place) :
    answer (Pattern.capture label body).ways after place
      = (answer body.ways (fun stop => (after stop).map (·.ending stop)) place).map
          (·.beginning label place) := by
  unfold answer
  rw [ways, List.findSome?_map, List.map_findSome?]
  refine congrArg (List.findSome? · (body.ways place)) (funext fun way => ?_)
  show (after way.stop).map _ = (((after way.stop).map _).map _).map _
  cases after way.stop <;> rfl

/-! ## All of a pattern -/

/-- **The views of a pattern tell of its ways.** -/
theorem tells_look (pattern : Pattern) : Tells pattern.look pattern.ways := by
  induction pattern with
  | empty => exact fun after offset rest => (answer_stay after ⟨offset, rest⟩).symm
  | literal spelling text => exact tells_literal spelling text
  | one set => exact tells_one set
  | run set nonempty greedy => exact tells_run set nonempty greedy
  | textStart =>
    intro after offset rest
    show (if offset = 0 then after ⟨offset, rest⟩ else none) = answer _ after _
    unfold answer
    rw [ways]
    by_cases h : offset = 0
    · rw [if_pos h, if_pos h]
      exact (answer_stay after ⟨offset, rest⟩).symm
    · rw [if_neg h, if_neg h]
      rfl
  | textEnd =>
    intro after offset rest
    show (if rest.isEmpty then after ⟨offset, rest⟩ else none) = answer _ after _
    unfold answer
    rw [ways]
    by_cases h : rest.isEmpty = true
    · rw [if_pos h, if_pos h]
      exact (answer_stay after ⟨offset, rest⟩).symm
    · rw [if_neg h, if_neg h]
      rfl
  | seq first second ih₁ ih₂ => exact ih₁.compose ih₂
  | alt preferred other ih₁ ih₂ => exact ih₁.either ih₂
  | group body ih => exact ih
  | capture label body ih =>
    intro after offset rest
    have hmemory : memory (Pattern.capture label body).look after offset rest
        = memory body.look (fun stop => (after stop).map (·.ending stop)) offset rest :=
      memory_eq_of_snd (Pattern.capture label body).look body.look
        (fun place now => now.map (·.ending place)) (fun _ _ _ => rfl) after offset rest
    rw [answer_capture, hmemory, ← ih]
    rfl
  | times body quantifier ih => exact Tells.repeated (ways_advance body) ih quantifier

/-- The fold over the places of a line computes the answers from the last place to the
first, and hands on the memory. -/
theorem foldr_look (pattern : Pattern) (after : Place → Option Outcome) (offset : Nat)
    (rest : List Char) :
    (placesFrom offset rest).foldr
        (fun place (passed, ahead) =>
          let (outcome, ahead) := pattern.look place ahead (after place)
          ((place.offset, outcome) :: passed, ahead))
        ([], Ahead.nothing)
      = ((placesFrom offset rest).map fun place => (place.offset, answer pattern.ways after place),
          (pattern.look ⟨offset, rest⟩ (memory pattern.look after offset rest)
            (after ⟨offset, rest⟩)).2) := by
  induction rest generalizing offset with
  | nil =>
    exact congrArg (fun outcome => ([(offset, outcome)], _)) (tells_look pattern after offset [])
  | cons c rest ih =>
    rw [placesFrom, List.foldr_cons, ih, List.map_cons,
      ← tells_look pattern after offset (c :: rest)]
    rfl

theorem placesBack_eq (passed : List Place) (offset : Nat) (rest : List Char) :
    placesBack passed offset rest = (placesFrom offset rest).reverse ++ passed := by
  induction rest generalizing passed offset with
  | nil => rfl
  | cons c rest ih => rw [placesBack, ih, placesFrom, List.reverse_cons, List.append_assoc]; rfl

/-- The answer with nothing to come after is the preferred way. -/
theorem answer_finished (step : Place → List Way) (place : Place) :
    answer step (fun stop => some (.finished stop)) place
      = (step place).head?.map fun way => ⟨way.stop.offset, way.captures, []⟩ := by
  unfold answer
  cases step place with
  | nil => rfl
  | cons way ways =>
    exact congrArg (fun captures => some (Outcome.mk way.stop.offset captures []))
      (List.append_nil way.captures)

/-- **The outcomes are those of the preferred ways**: at each place of the line, where
the first way through the pattern ends and what it captures. -/
theorem outcomes_eq (pattern : Pattern) (line : List Char) :
    pattern.outcomes line
      = (placesFrom 0 line).map fun place =>
          (place.offset,
            (pattern.ways place).head?.map fun way => ⟨way.stop.offset, way.captures, []⟩) := by
  rw [outcomes, placesBack_eq, List.append_nil, List.foldl_reverse]
  refine (congrArg Prod.fst
    (foldr_look pattern (fun stop => some (.finished stop)) 0 line)).trans ?_
  exact List.map_congr_left fun place _ => congrArg (place.offset, ·) (answer_finished _ place)

end TurtleAssist.Pattern
