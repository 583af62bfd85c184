import Mathlib.Data.List.Basic
import TurtleAssist.Pattern.Way

/-!
# From place to place

A way through a pattern begins at one place of a line and ends at another, and
between the two stands a text. `Place.Reads` relates the two places and the
text, and says all that is needed of places: the text and the first place
determine the second, and readings follow one another as texts are appended.

The main statement is that the ways through a pattern never go back:
`ways_advance` finds, for each of them, the text that it reads. It is proved
from the same fact about each way to put steps together, so that a step is
asked for nothing else.
-/

namespace TurtleAssist.Pattern

/-- **The text between two places**: it stands at the first place, and the second
one comes right after it. -/
def Place.Reads (place : Place) (text : List Char) (stop : Place) : Prop :=
  place.rest = text ++ stop.rest ∧ stop.offset = place.offset + text.length

namespace Place.Reads

variable {p q r : Place} {s t : List Char}

/-- Nothing stands between a place and itself. -/
theorem refl (p : Place) : p.Reads [] p := ⟨rfl, rfl⟩

/-- Readings follow one another. -/
theorem trans (hs : p.Reads s q) (ht : q.Reads t r) : p.Reads (s ++ t) r := by
  refine ⟨?_, ?_⟩
  · rw [hs.1, ht.1, List.append_assoc]
  · rw [ht.2, hs.2, List.length_append, Nat.add_assoc]

/-- Two texts in a row are read by way of the place between them. -/
theorem append_iff : p.Reads (s ++ t) r ↔ ∃ q, p.Reads s q ∧ q.Reads t r := by
  refine ⟨fun h => ?_, fun ⟨q, hs, ht⟩ => hs.trans ht⟩
  obtain ⟨hrest, hoffset⟩ := h
  refine ⟨⟨p.offset + s.length, t ++ r.rest⟩, ⟨?_, rfl⟩, rfl, ?_⟩
  · rw [hrest, List.append_assoc]
  · rw [hoffset, List.length_append, Nat.add_assoc]

/-- The text leads to one place only. -/
theorem stop_unique (h : p.Reads s q) (h' : p.Reads s r) : q = r := by
  have hrest : q.rest = r.rest := List.append_cancel_left (h.1.symm.trans h'.1)
  have hoffset : q.offset = r.offset := h.2.trans h'.2.symm
  cases q
  cases r
  exact congrArg₂ Place.mk hoffset hrest

/-- A reading goes forward. -/
theorem offset_le (h : p.Reads s q) : p.offset ≤ q.offset := by
  rw [h.2]
  exact Nat.le_add_right _ _

/-- A reading leaves less of the line. -/
theorem length_rest_add (h : p.Reads s q) : s.length + q.rest.length = p.rest.length := by
  rw [h.1, List.length_append]

end Place.Reads

/-- A text that stands in front of a place is read from there. -/
theorem Place.reads_append (offset : Nat) (text rest : List Char) :
    Place.Reads ⟨offset, text ++ rest⟩ text ⟨offset + text.length, rest⟩ :=
  ⟨rfl, rfl⟩

/-- The place after a text is the one to which reading it leads. -/
theorem Place.after?_eq_some {text : List Char} {place stop : Place} :
    Place.after? text place = some stop ↔ place.Reads text stop := by
  induction text generalizing place with
  | nil =>
    refine ⟨fun h => ?_, fun h => ?_⟩
    · cases h
      exact .refl stop
    · exact congrArg some ((Place.Reads.refl place).stop_unique h)
  | cons c text ih =>
    obtain ⟨offset, rest⟩ := place
    cases rest with
    | nil =>
      refine ⟨fun h => ?_, fun h => ?_⟩
      · cases h
      · exact absurd h.1 (by simp)
    | cons x rest =>
      by_cases hx : x = c
      · have hafter : Place.after? (c :: text) ⟨offset, x :: rest⟩
            = Place.after? text ⟨offset + 1, rest⟩ := if_pos hx
        rw [hafter, ih]
        refine and_congr ?_ ?_
        · simp [hx]
        · rw [List.length_cons]
          show _ = offset + 1 + text.length ↔ _ = offset + (text.length + 1)
          omega
      · have hafter : Place.after? (c :: text) ⟨offset, x :: rest⟩ = none := if_neg hx
        rw [hafter]
        refine ⟨fun h => ?_, fun h => absurd (List.cons.inj h.1).1 hx⟩
        cases h

/-- One character of a set is read to the next place. -/
theorem Place.reads_next {place : Place} {set : CharSet} (h : place.startsIn set = true) :
    ∃ c, set.contains c = true ∧ place.Reads [c] place.next := by
  obtain ⟨offset, rest⟩ := place
  cases rest with
  | nil => cases h
  | cons c rest => exact ⟨c, h, rfl, rfl⟩

/-- Where one character of a set is read, the place starts in the set, and the reading
leads to the next place. -/
theorem Place.Reads.startsIn {place stop : Place} {set : CharSet} {c : Char}
    (h : place.Reads [c] stop) (hc : set.contains c = true) :
    place.startsIn set = true ∧ place.next = stop := by
  obtain ⟨offset, rest⟩ := place
  obtain ⟨stopOffset, stopRest⟩ := stop
  obtain ⟨hrest, hoffset⟩ := h
  have hrest' : rest = c :: stopRest := hrest
  have hoffset' : stopOffset = offset + 1 := hoffset
  subst hrest' hoffset'
  exact ⟨hc, rfl⟩

/-! ## Steps that go forward -/

/-- **A step goes forward**: each of its ways reads a text. -/
def Advances (step : Place → List Way) : Prop :=
  ∀ place, ∀ way ∈ step place, ∃ text, place.Reads text way.stop

namespace Way

variable {first second step : Place → List Way}

/-- A way of two steps is a way of the first with a way of the second from its
end. -/
theorem mem_onward {way further : Way} {next : Place → List Way} :
    further ∈ way.onward next
      ↔ ∃ last ∈ next way.stop, further = ⟨last.stop, way.captures ++ last.captures⟩ := by
  rw [onward, List.mem_map]
  exact exists_congr fun last => and_congr_right fun _ => eq_comm

theorem mem_compose {place : Place} {way : Way} :
    way ∈ compose first second place
      ↔ ∃ begun ∈ first place, ∃ last ∈ second begun.stop,
          way = ⟨last.stop, begun.captures ++ last.captures⟩ := by
  rw [compose, List.mem_flatMap]
  exact exists_congr fun begun => and_congr_right fun _ => mem_onward

theorem advances_stay : Advances fun place => [stay place] := by
  intro place way hway
  cases List.mem_singleton.mp hway
  exact ⟨[], .refl place⟩

theorem advances_compose (h₁ : Advances first) (h₂ : Advances second) :
    Advances (compose first second) := by
  intro place way hway
  obtain ⟨begun, hbegun, last, hlast, rfl⟩ := mem_compose.mp hway
  obtain ⟨s, hs⟩ := h₁ place begun hbegun
  obtain ⟨t, ht⟩ := h₂ begun.stop last hlast
  exact ⟨s ++ t, hs.trans ht⟩

theorem advances_append (h₁ : Advances first) (h₂ : Advances second) :
    Advances fun place => first place ++ second place := by
  intro place way hway
  exact (List.mem_append.mp hway).elim (h₁ place way) (h₂ place way)

theorem advances_exactly (h : Advances step) (n : Nat) : Advances (exactly step n) := by
  induction n with
  | zero => exact advances_stay
  | succ n ih => exact advances_compose h ih

theorem advances_upTo (h : Advances step) (n : Nat) : Advances (upTo step n) := by
  induction n with
  | zero => exact advances_stay
  | succ n ih => exact advances_append (advances_compose h ih) advances_stay

/-- A way of an unbounded repetition stays, or makes a round that comes nearer to the
end and goes on from there. -/
theorem mem_unbounded_succ {n : Nat} {place : Place} {way : Way} :
    way ∈ unbounded step (n + 1) place
      ↔ (∃ begun ∈ step place, place.offset < begun.stop.offset
          ∧ ∃ last ∈ unbounded step n begun.stop,
            way = ⟨last.stop, begun.captures ++ last.captures⟩)
        ∨ way = stay place := by
  rw [unbounded, List.mem_append, List.mem_singleton, List.mem_flatMap]
  refine or_congr (exists_congr fun begun => ?_) Iff.rfl
  rw [List.mem_filter, decide_eq_true_iff, and_assoc]
  exact and_congr_right fun _ => and_congr_right fun _ => mem_onward

theorem advances_unbounded (h : Advances step) (n : Nat) : Advances (unbounded step n) := by
  induction n with
  | zero => exact advances_stay
  | succ n ih =>
    intro place way hway
    obtain ⟨begun, hbegun, -, last, hlast, rfl⟩ | rfl := mem_unbounded_succ.mp hway
    · obtain ⟨s, hs⟩ := h place begun hbegun
      obtain ⟨t, ht⟩ := ih begun.stop last hlast
      exact ⟨s ++ t, hs.trans ht⟩
    · exact ⟨[], .refl place⟩

/-- More rounds than there are characters left add nothing. -/
theorem unbounded_eq_of_le (h : Advances step) {n : Nat} {place : Place}
    (hn : place.rest.length ≤ n) :
    unbounded step n place = unbounded step place.rest.length place := by
  induction n using Nat.strongRecOn generalizing place with
  | ind n ih =>
    -- a round that counts comes nearer to the end, so its stop has fewer characters left
    have hround : ∀ m m', place.rest.length ≤ m + 1 → place.rest.length ≤ m' + 1 →
        m < n → m' < n →
        unbounded step (m + 1) place = unbounded step (m' + 1) place := by
      intro m m' hm hm' hlt hlt'
      unfold unbounded
      refine congrArg (· ++ _) (List.flatMap_congr fun begun hbegun => ?_)
      obtain ⟨hmem, hfar⟩ := List.mem_filter.mp hbegun
      obtain ⟨text, htext⟩ := h place begun hmem
      have hless : begun.stop.rest.length < place.rest.length := by
        have h₁ := htext.length_rest_add
        have h₂ := htext.2
        have h₃ := of_decide_eq_true hfar
        omega
      rw [onward, onward, ih m hlt (by omega), ih m' hlt' (by omega)]
    cases n with
    | zero => rw [Nat.le_zero.mp hn]
    | succ n =>
      cases hlen : place.rest.length with
      | zero =>
        -- nothing is left to be read, so no round counts
        have hnone : (step place).filter (place.offset < ·.stop.offset) = [] := by
          refine List.filter_eq_nil_iff.mpr fun begun hbegun => ?_
          obtain ⟨text, htext⟩ := h place begun hbegun
          have h₁ := htext.length_rest_add
          have h₂ := htext.2
          simp only [decide_eq_true_eq]
          omega
        unfold unbounded
        rw [hnone]
        rfl
      | succ m => exact hround n m (by omega) (by omega) (by omega) (by omega)

/-- The ways of a step that come nearer to the end of the line. -/
def further (step : Place → List Way) (place : Place) : List Way :=
  (step place).filter (place.offset < ·.stop.offset)

/-- The ways of an unbounded repetition, with as many rounds as there can be. -/
def repeatedly (step : Place → List Way) (place : Place) : List Way :=
  unbounded step place.rest.length place

/-- An unbounded repetition makes a round that comes nearer to the end and goes on from
there, or it stays. -/
theorem repeatedly_eq (h : Advances step) (place : Place) :
    repeatedly step place = compose (further step) (repeatedly step) place ++ [stay place] := by
  -- one round more than there are characters left changes nothing
  rw [repeatedly, ← unbounded_eq_of_le h (Nat.le_succ place.rest.length), unbounded]
  refine congrArg (· ++ _) (List.flatMap_congr fun begun hbegun => ?_)
  obtain ⟨text, htext⟩ := h place begun (List.mem_filter.mp hbegun).1
  have hle : begun.stop.rest.length ≤ place.rest.length := by
    have := htext.length_rest_add
    omega
  rw [onward, onward, repeatedly, unbounded_eq_of_le h hle]

/-- The rounds of a run of a set, from the characters that are left. -/
theorem mem_along {set : CharSet} {greedy : Bool} {offset : Nat} {rest : List Char} {way : Way} :
    way ∈ along set greedy offset rest
      ↔ ∃ text, (∀ c ∈ text, set.contains c = true) ∧ way.captures = []
          ∧ Place.Reads ⟨offset, rest⟩ text way.stop := by
  induction rest generalizing offset with
  | nil =>
    rw [along, List.mem_singleton]
    refine ⟨fun h => ⟨[], by simp, h ▸ rfl, h ▸ .refl _⟩, fun ⟨text, _, hcaptures, hreads⟩ => ?_⟩
    obtain ⟨stop, captures⟩ := way
    cases hcaptures
    have hnil : text = [] := (List.nil_eq_append_iff.mp hreads.1).1
    subst hnil
    exact congrArg (Way.mk · []) (hreads.stop_unique (.refl _))
  | cons c rest ih =>
    have hmem : way ∈ along set greedy offset (c :: rest)
        ↔ way = stay ⟨offset, c :: rest⟩
          ∨ set.contains c = true ∧ way ∈ along set greedy (offset + 1) rest := by
      cases greedy <;> by_cases hc : set.contains c = true <;> simp [along, hc, or_comm]
    rw [hmem, ih]
    refine ⟨?_, fun ⟨text, htext, hcaptures, hreads⟩ => ?_⟩
    · rintro (rfl | ⟨hc, text, htext, hcaptures, hreads⟩)
      · exact ⟨[], by simp, rfl, .refl _⟩
      · refine ⟨c :: text, List.forall_mem_cons.mpr ⟨hc, htext⟩, hcaptures, ?_⟩
        exact Place.Reads.trans (s := [c]) (q := ⟨offset + 1, rest⟩) ⟨rfl, rfl⟩ hreads
    · cases text with
      | nil =>
        obtain ⟨stop, captures⟩ := way
        cases hcaptures
        exact Or.inl (congrArg (Way.mk · []) (hreads.stop_unique (.refl _)))
      | cons x text =>
        have hx : c = x := (List.cons.inj hreads.1).1
        subst hx
        obtain ⟨hc, htext⟩ := List.forall_mem_cons.mp htext
        refine Or.inr ⟨hc, text, htext, hcaptures, (List.cons.inj hreads.1).2, ?_⟩
        rw [hreads.2, List.length_cons]
        show offset + (text.length + 1) = offset + 1 + text.length
        omega

end Way

open Way

/-! ## The ways of a node -/

section Nodes

variable {place : Place} {way : Way} {set : CharSet}

theorem mem_ways_literal {spelling : Spelling} {text : List Char} :
    way ∈ (literal spelling text).ways place ↔ place.Reads text way.stop ∧ way.captures = [] := by
  rw [ways, Option.mem_toList, Option.map_eq_some_iff]
  constructor
  · rintro ⟨stop, hstop, rfl⟩
    exact ⟨Place.after?_eq_some.mp hstop, rfl⟩
  · rintro ⟨hreads, hcaptures⟩
    exact ⟨way.stop, Place.after?_eq_some.mpr hreads, by cases way; exact congrArg _ hcaptures.symm⟩

theorem mem_ways_one :
    way ∈ (one set).ways place ↔ place.startsIn set = true ∧ way = stay place.next := by
  rw [ways, List.mem_ite_nil_right, List.mem_singleton]

theorem mem_ways_textStart :
    way ∈ textStart.ways place ↔ place.offset = 0 ∧ way = stay place := by
  rw [ways, List.mem_ite_nil_right, List.mem_singleton]

theorem mem_ways_textEnd :
    way ∈ textEnd.ways place ↔ place.rest = [] ∧ way = stay place := by
  rw [ways, List.mem_ite_nil_right, List.mem_singleton, List.isEmpty_iff]

/-- **A run ends after each of its characters**, and where it begins if it may be empty. -/
theorem mem_ways_run {nonempty greedy : Bool} :
    way ∈ (run set nonempty greedy).ways place
      ↔ ∃ text, (nonempty = true → text ≠ []) ∧ (∀ c ∈ text, set.contains c = true)
          ∧ way.captures = [] ∧ place.Reads text way.stop := by
  rw [ways]
  cases nonempty with
  | false =>
    refine mem_along.trans (exists_congr fun text => (and_iff_right ?_).symm)
    exact fun hfalse => Bool.noConfusion hfalse
  | true =>
    rw [if_pos rfl, List.mem_ite_nil_right]
    constructor
    · rintro ⟨hstart, hway⟩
      obtain ⟨c, hc, hfirst⟩ := Place.reads_next hstart
      obtain ⟨text, htext, hcaptures, hreads⟩ := mem_along.mp hway
      exact ⟨[c] ++ text, fun _ => List.cons_ne_nil c text,
        List.forall_mem_cons.mpr ⟨hc, htext⟩, hcaptures, hfirst.trans hreads⟩
    · rintro ⟨text, hne, htext, hcaptures, hreads⟩
      obtain ⟨c, text, rfl⟩ := List.exists_cons_of_ne_nil (hne rfl)
      obtain ⟨hc, htext⟩ := List.forall_mem_cons.mp htext
      obtain ⟨next, hfirst, hreads⟩ := Place.Reads.append_iff (s := [c]).mp hreads
      obtain ⟨hstart, rfl⟩ := hfirst.startsIn hc
      exact ⟨hstart, mem_along.mpr ⟨text, htext, hcaptures, hreads⟩⟩

theorem mem_ways_capture {label : String} {body : Pattern} :
    way ∈ (capture label body).ways place
      ↔ ∃ inner ∈ body.ways place,
          way = ⟨inner.stop, ⟨label, place, inner.stop.offset⟩ :: inner.captures⟩ := by
  rw [ways, List.mem_map]
  exact exists_congr fun inner => and_congr_right fun _ => eq_comm

end Nodes

/-! ## The ways through a pattern -/

/-- The ways of a repetition go forward if those of its body do. -/
theorem Way.advances_beyondLeast {step : Place → List Way} (h : Advances step)
    (quantifier : Quantifier) : Advances (beyondLeast step quantifier) := by
  intro place way hway
  unfold beyondLeast at hway
  cases hmost : quantifier.most with
  | some most =>
    rw [hmost] at hway
    exact advances_upTo h _ place way hway
  | none =>
    rw [hmost] at hway
    exact advances_unbounded h _ place way hway

/-- **The ways through a pattern go forward.** -/
theorem ways_advance (pattern : Pattern) : Advances pattern.ways := by
  induction pattern with
  | empty => exact advances_stay
  | literal spelling text => exact fun place way hway => ⟨text, (mem_ways_literal.mp hway).1⟩
  | one set =>
    intro place way hway
    obtain ⟨hstart, rfl⟩ := mem_ways_one.mp hway
    obtain ⟨c, -, hreads⟩ := Place.reads_next hstart
    exact ⟨[c], hreads⟩
  | run set nonempty greedy =>
    intro place way hway
    obtain ⟨text, -, -, -, hreads⟩ := mem_ways_run.mp hway
    exact ⟨text, hreads⟩
  | textStart =>
    intro place way hway
    obtain ⟨-, rfl⟩ := mem_ways_textStart.mp hway
    exact ⟨[], .refl place⟩
  | textEnd =>
    intro place way hway
    obtain ⟨-, rfl⟩ := mem_ways_textEnd.mp hway
    exact ⟨[], .refl place⟩
  | seq first second ih₁ ih₂ => exact advances_compose ih₁ ih₂
  | alt preferred other ih₁ ih₂ => exact advances_append ih₁ ih₂
  | group body ih => exact ih
  | capture label body ih =>
    intro place way hway
    obtain ⟨inner, hinner, rfl⟩ := mem_ways_capture.mp hway
    exact ih place inner hinner
  | times body quantifier ih =>
    exact advances_compose (advances_exactly ih _) (advances_beyondLeast ih quantifier)

end TurtleAssist.Pattern
