import Mathlib.Data.List.Basic
import TurtleAssist.Proofs.Pattern.Capture

/-!
# The preferred way

Which texts a pattern accepts decides whether it is found in a line, and most often it also
decides what the match captures. Where the pattern may follow several texts from one place it
does not: the match is made on the first of its ways there, the one that the pattern *prefers*
(`Way.Prefers`).

The preferred way is followed through patterns in a row. It goes on from the first way of the
first pattern from whose end the second one has a way at all (`Prefers.exists_split`). A pattern
without captures leaves nothing to prefer before another one (`IsSilent.prefers_before`), and a
greedy run takes as much as the pattern after it lets it have (`Prefers.exists_run`), hence
everything where no pattern follows (`Prefers.ends_run`).
-/

namespace TurtleAssist.Pattern

open Way

namespace Way

variable {first second step : Place → List Way} {place : Place} {way : Way}

/-- **The way that a step prefers from a place**: the first of its ways there. -/
def Prefers (step : Place → List Way) (place : Place) (way : Way) : Prop :=
  (step place).head? = some way

theorem Prefers.mem (h : Prefers step place way) : way ∈ step place :=
  List.mem_of_head? h

/-- **Of two steps the second one decides where the first one ends**: at the end of its first
way from which the second one has a way. -/
theorem Prefers.exists_split (h : Prefers (compose first second) place way) :
    ∃ passed begun others, first place = passed ++ begun :: others
      ∧ (∀ other ∈ passed, second other.stop = [])
      ∧ ∃ last, Prefers second begun.stop last
          ∧ way = ⟨last.stop, begun.captures ++ last.captures⟩ := by
  have hfirst : (first place).findSome? (fun begun => (begun.onward second).head?) = some way := by
    rw [← List.head?_flatMap]
    exact h
  obtain ⟨passed, begun, others, hsplit, hlast, hpassed⟩ := List.findSome?_eq_some_iff.mp hfirst
  refine ⟨passed, begun, others, hsplit, fun other hother => ?_, ?_⟩
  · have hnone : other.onward second = [] := List.head?_eq_none_iff.mp (hpassed other hother)
    exact List.map_eq_nil_iff.mp hnone
  · rw [onward, List.head?_map, Option.map_eq_some_iff] at hlast
    obtain ⟨last, hlast, rfl⟩ := hlast
    exact ⟨last, hlast, rfl⟩

/-- Of two steps the second one's preferred way is followed. -/
theorem Prefers.exists_compose (h : Prefers (compose first second) place way) :
    ∃ begun ∈ first place, ∃ last, Prefers second begun.stop last
      ∧ way = ⟨last.stop, begun.captures ++ last.captures⟩ := by
  obtain ⟨passed, begun, others, hsplit, -, hlast⟩ := h.exists_split
  exact ⟨begun, hsplit ▸ List.mem_append_right passed List.mem_cons_self, hlast⟩

/-- The ways along a greedy run come with the longest one first. -/
theorem pairwise_along (set : CharSet) (offset : Nat) (rest : List Char) :
    (along set true offset rest).Pairwise fun one two => two.stop.offset < one.stop.offset := by
  induction rest generalizing offset with
  | nil => exact List.pairwise_singleton _ _
  | cons c rest ih =>
    unfold along
    by_cases hc : set.contains c = true
    · rw [if_pos rfl, if_pos hc, List.pairwise_append]
      refine ⟨ih (offset + 1), List.pairwise_singleton _ _, fun further hfurther here hhere => ?_⟩
      obtain ⟨text, -, -, hreads⟩ := mem_along.mp hfurther
      cases List.mem_singleton.mp hhere
      exact hreads.offset_le
    · rw [if_pos rfl, if_neg hc]
      exact List.pairwise_singleton _ _

end Way

variable {first second body pattern : Pattern} {place : Place} {way : Way} {set : CharSet}
  {nonempty : Bool}

/-- The match in a line is made on the preferred way from the first place that has one. -/
theorem exists_prefers_of_find? {line : List Char} {found : Match}
    (h : pattern.find? line = some found) :
    ∃ place ∈ placesFrom 0 line, ∃ way, Prefers pattern.ways place way
      ∧ found = ⟨⟨place.offset, way.stop.offset⟩, way.captures⟩ := by
  obtain ⟨place, hplace, hmatch, -⟩ := find?_eq_some_iff.mp h
  obtain ⟨way, hway, rfl⟩ := Option.map_eq_some_iff.mp hmatch
  exact ⟨place, hplace, way, hway, rfl⟩

/-- A capture is made of the preferred way of its body. -/
theorem exists_prefers_of_capture {label : String}
    (h : Prefers (capture label body).ways place way) :
    ∃ inner, Prefers body.ways place inner
      ∧ way = ⟨inner.stop, ⟨label, place, inner.stop.offset⟩ :: inner.captures⟩ := by
  unfold Prefers at h
  rw [ways, List.head?_map, Option.map_eq_some_iff] at h
  obtain ⟨inner, hinner, rfl⟩ := h
  exact ⟨inner, hinner, rfl⟩

/-- After a silent pattern the way is the one that the next pattern prefers. -/
theorem IsSilent.prefers_before (h : first.IsSilent)
    (hway : Prefers (first ++ second).ways place way) :
    ∃ text middle, place.Reads text middle ∧ first.Accepts text
      ∧ Prefers second.ways middle way := by
  obtain ⟨begun, hbegun, last, hlast, rfl⟩ := Prefers.exists_compose hway
  obtain ⟨hnone, text, hreads, haccepts⟩ := h.reads_of_mem hbegun
  rw [hnone]
  exact ⟨text, begun.stop, hreads, haccepts, hlast⟩

theorem pairwise_ways_run (set : CharSet) (nonempty : Bool) (place : Place) :
    ((run set nonempty true).ways place).Pairwise fun one two =>
      two.stop.offset < one.stop.offset := by
  rw [ways]
  cases nonempty with
  | false => exact pairwise_along set place.offset place.rest
  | true =>
    rw [if_pos rfl]
    by_cases hstart : place.startsIn set = true
    · rw [if_pos hstart]
      exact pairwise_along set place.next.offset place.next.rest
    · rw [if_neg hstart]
      exact List.Pairwise.nil

/-- **A greedy run before a pattern** takes as many characters as it can: after more of them the
pattern has no way. -/
theorem Way.Prefers.exists_run (h : Prefers (run set nonempty true ++ second).ways place way) :
    ∃ text middle, place.Reads text middle ∧ (∀ c ∈ text, set.contains c = true)
      ∧ Prefers second.ways middle way
      ∧ ∀ longer stop, place.Reads longer stop → (∀ c ∈ longer, set.contains c = true) →
          text.length < longer.length → second.ways stop = [] := by
  obtain ⟨passed, begun, others, hsplit, hpassed, last, hlast, rfl⟩ := Prefers.exists_split h
  have hmem : begun ∈ (run set nonempty true).ways place :=
    hsplit ▸ List.mem_append_right passed List.mem_cons_self
  obtain ⟨text, hne, htext, hnone, hreads⟩ := mem_ways_run.mp hmem
  rw [hnone]
  refine ⟨text, begun.stop, hreads, htext, hlast, fun longer stop hlonger hin hlt => ?_⟩
  have hstop : stay stop ∈ (run set nonempty true).ways place := by
    refine mem_ways_run.mpr ⟨longer, fun _ hnil => ?_, hin, rfl, hlonger⟩
    rw [hnil] at hlt
    exact Nat.not_lt_zero _ hlt
  have hfar : begun.stop.offset < stop.offset := by
    rw [hreads.2, hlonger.2]
    exact Nat.add_lt_add_left hlt _
  -- the ways after the one that is followed are shorter, so the longer one has been passed
  have hsorted := pairwise_ways_run set nonempty place
  rw [hsplit] at hstop hsorted
  rcases List.mem_append.mp hstop with hstop | hstop
  · exact hpassed _ hstop
  · rcases List.mem_cons.mp hstop with rfl | hstop
    · exact absurd hfar (Nat.lt_irrefl _)
    · have hshort := (List.pairwise_cons.mp (List.pairwise_append.mp hsorted).2.1).1 _ hstop
      exact absurd hfar (Nat.lt_asymm hshort)

/-- **A greedy run by itself** goes on to the first character outside the set. -/
theorem Way.Prefers.ends_run (h : Prefers (run set nonempty true).ways place way) :
    ∀ c ∈ way.stop.rest.head?, set.contains c = false := by
  intro c hc
  refine Bool.eq_false_iff.mpr fun hin => ?_
  obtain ⟨text, -, htext, hnone, hreads⟩ := mem_ways_run.mp h.mem
  obtain ⟨rest, hrest⟩ := List.head?_eq_some_iff.mp hc
  have hfurther : way.stop.Reads [c] ⟨way.stop.offset + 1, rest⟩ := ⟨hrest, rfl⟩
  -- one character more would make a way that comes first
  have hmem : stay ⟨way.stop.offset + 1, rest⟩ ∈ (run set nonempty true).ways place :=
    mem_ways_run.mpr ⟨text ++ [c], fun _ => by simp,
      List.forall_mem_append.mpr ⟨htext, List.forall_mem_singleton.mpr hin⟩, rfl,
      hreads.trans hfurther⟩
  have hsorted := pairwise_ways_run set nonempty place
  obtain ⟨others, hways⟩ := List.head?_eq_some_iff.mp h
  rw [hways] at hmem hsorted
  rcases List.mem_cons.mp hmem with heq | hmem
  · have hstop : way.stop.offset = way.stop.offset + 1 := congrArg (·.stop.offset) heq.symm
    omega
  · have hshort : way.stop.offset + 1 < way.stop.offset :=
      (List.pairwise_cons.mp hsorted).1 _ hmem
    omega

/-- A character in front of a greedy run leaves the run its way. -/
theorem Way.Prefers.ends_one_run {start : CharSet}
    (h : Prefers (one start ++ run set nonempty true).ways place way) :
    ∀ c ∈ way.stop.rest.head?, set.contains c = false := by
  obtain ⟨_, _, -, -, hrun⟩ := (isSilent_one start).prefers_before h
  exact hrun.ends_run

end TurtleAssist.Pattern
