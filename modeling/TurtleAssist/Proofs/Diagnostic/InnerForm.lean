import Mathlib.Data.List.Basic
import TurtleAssist.Diagnostic.Engine
import TurtleAssist.Proofs.Pattern.Capture
import TurtleAssist.Proofs.Text.Flat

/-!
# The innermost forms of a line

The last tier of rules looks at the innermost forms of a line, the stretches between
parentheses that hold no other parenthesis. `IsInnermost` says so of a stretch, without a
pattern and without an order of search.

The pattern finds exactly these. From the opening parenthesis of an innermost form every
way through the pattern ends at the closing one, because no other closing parenthesis can
be reached (`Text.IsFlat.eq_of_append`); the ways differ in how much white space they skip
before they begin to capture, which does not change the first token of what is captured. So
the match at an opening parenthesis has one span and one head, those of the form
(`exists_interior_of_matchAt?`). Two innermost forms do not overlap, and the search for
matches without overlap therefore leaves none of them out (`findAll_innerForm`).
-/

namespace TurtleAssist

open Text (Line Span IsFirstToken IsFlat)
open Unicode (isWhiteSpace)

namespace KnownNames

open Pattern Way

/-- **An innermost form of a line**: a stretch between parentheses, with no other
parenthesis in it. -/
def IsInnermost (line : Line) (span : Span) (inside : List Char) : Prop :=
  ∃ before after, line = before ++ ('(' :: (inside ++ ')' :: after)) ∧ IsFlat inside
    ∧ span = ⟨before.length, before.length + inside.length + 2⟩

/-! ## The match at an opening parenthesis -/

/-- Each way through the pattern goes from an opening to a closing parenthesis, and captures
what stands between them but for white space in front. -/
theorem mem_ways_innerForm {place : Place} {way : Way} (h : way ∈ innerForm.ways place) :
    ∃ blank held, place.Reads ('(' :: (blank ++ held ++ [')'])) way.stop
      ∧ (∀ c ∈ blank, isWhiteSpace c = true) ∧ IsFlat held
      ∧ ∃ capture, way.captures = [capture] ∧ capture.label = "inside" ∧ capture.text = held := by
  obtain ⟨opening, hopening, _, hrest, rfl⟩ := mem_compose.mp h
  obtain ⟨_, hfront, closing, hclosing, rfl⟩ := mem_compose.mp hrest
  obtain ⟨skipped, hskipped, _, hcapture, rfl⟩ := mem_compose.mp hfront
  obtain ⟨inner, hinner, rfl⟩ := mem_ways_capture.mp hcapture
  obtain ⟨hreadsOpening, hnone⟩ := mem_ways_literal.mp hopening
  obtain ⟨hreadsClosing, hnone'⟩ := mem_ways_literal.mp hclosing
  obtain ⟨blank, -, hblank, hnone'', hreadsBlank⟩ := mem_ways_run.mp hskipped
  obtain ⟨held, -, hheld, hnone''', hreadsHeld⟩ := mem_ways_run.mp hinner
  refine ⟨blank, held, ?_, hblank, fun c hc => CharSet.contains_nonParen.mp (hheld c hc),
    ⟨"inside", skipped.stop, inner.stop.offset⟩, ?_, rfl, Capture.text_eq _ hreadsHeld⟩
  · exact hreadsOpening.trans ((hreadsBlank.trans hreadsHeld).trans hreadsClosing)
  · simp [hnone, hnone', hnone'', hnone''']

/-- **The match at an opening parenthesis** covers the innermost form that begins there, and
its head is the first token of the form. -/
theorem exists_interior_of_matchAt? {place : Place} {form : Match}
    (h : innerForm.matchAt? place = some form) :
    ∃ inside after, place.rest = '(' :: (inside ++ ')' :: after) ∧ IsFlat inside
      ∧ form.span = ⟨place.offset, place.offset + inside.length + 2⟩
      ∧ head? form = (Text.tokens inside).head? := by
  obtain ⟨way, hway, rfl⟩ := exists_way_of_matchAt? h
  obtain ⟨blank, held, hreads, hblank, hheld, capture, hcaptures, hlabel, htext⟩ :=
    mem_ways_innerForm hway
  refine ⟨blank ++ held, way.stop.rest, ?_, ?_, ?_, ?_⟩
  · rw [hreads.1]
    simp
  · exact List.forall_mem_append.mpr ⟨IsFlat.of_blank hblank, hheld⟩
  · rw [hreads.2]
    simp [Nat.add_assoc]
  · have hcapture : Match.capture? ⟨⟨place.offset, way.stop.offset⟩, way.captures⟩ "inside"
        = some capture := by
      simp [Match.capture?, hcaptures, hlabel]
    rw [head?, hcapture, Text.tokens_blank_append hblank, ← htext]
    rfl

/-- At the opening parenthesis of an innermost form there is a match. -/
theorem matchAt?_ne_none {place : Place} {inside after : List Char}
    (hrest : place.rest = '(' :: (inside ++ ')' :: after)) (hinside : IsFlat inside) :
    innerForm.matchAt? place ≠ none := by
  rw [ne_eq, matchAt?_eq_none_iff, ways_eq_nil_iff rfl]
  intro hnone
  refine hnone ('(' :: (inside ++ [')'])) after (by simp [hrest]) ?_
  refine ⟨['('], inside ++ [')'], rfl, rfl, inside, [')'], rfl, ⟨[], inside, rfl, ?_, ?_⟩, rfl⟩
  · exact accepts_blanks.mpr (List.forall_mem_nil _)
  · exact ⟨fun hfalse => Bool.noConfusion hfalse,
      fun c hc => CharSet.contains_nonParen.mpr (hinside c hc)⟩

/-! ## The search for forms -/

/-- Of two places of a line at which innermost forms begin, the later one comes after the
form at the earlier one. -/
theorem stop_le_of_lt {line : Line} {p q : Place} {inside after tail : List Char}
    (hp : p ∈ placesFrom 0 line) (hq : q ∈ placesFrom 0 line) (hlt : p.offset < q.offset)
    (hrest : p.rest = '(' :: (inside ++ ')' :: after)) (hinside : IsFlat inside)
    (hopen : q.rest = '(' :: tail) : p.offset + inside.length + 2 ≤ q.offset := by
  obtain ⟨before, hline, hoffset⟩ := mem_places_iff.mp hp
  obtain ⟨before', hline', hoffset'⟩ := mem_places_iff.mp hq
  -- what stands between the two places
  obtain ⟨mid, hmid⟩ : before <+: before' :=
    List.prefix_of_prefix_length_le ⟨_, hline.symm⟩ ⟨_, hline'.symm⟩ (by omega)
  subst hmid
  rw [List.length_append] at hoffset'
  have hsplit : '(' :: (inside ++ ')' :: after) = mid ++ '(' :: tail := by
    rw [hline, List.append_assoc, hrest, hopen] at hline'
    exact List.append_cancel_left hline'
  cases mid with
  | nil => exact absurd hoffset' (by rw [List.length_nil]; omega)
  | cons c mid =>
    have hbetween : inside ++ ')' :: after = mid ++ '(' :: tail := (List.cons.inj hsplit).2
    rw [List.length_cons] at hoffset'
    by_contra hnear
    -- an opening parenthesis in the form, or in place of the closing one
    obtain ⟨others, hothers⟩ : mid <+: inside :=
      List.prefix_of_prefix_length_le ⟨_, hbetween.symm⟩ ⟨_, rfl⟩ (by omega)
    have hflat : IsFlat mid := fun x hx => hinside x (hothers ▸ List.mem_append_left _ hx)
    have hfalse := (hinside.eq_of_append hflat (Or.inr rfl) (Or.inl rfl) hbetween).2.1
    exact absurd hfalse (by decide)

/-- **No innermost form is left out for overlapping another one.** -/
theorem findAll_innerForm (line : Line) :
    innerForm.findAll line = (placesFrom 0 line).filterMap innerForm.matchAt? := by
  rw [findAll, candidates_eq]
  refine disjoint_eq_self (fun _ _ => Nat.zero_le _) ?_
  rw [List.pairwise_filterMap]
  refine (pairwise_placesFrom 0 line).imp_of_mem fun {p q} hp hq hlt form hform form' hform' => ?_
  obtain ⟨inside, after, hrest, hinside, hspan, -⟩ := exists_interior_of_matchAt? hform
  obtain ⟨inside', after', hrest', -, hspan', -⟩ := exists_interior_of_matchAt? hform'
  rw [hspan, hspan']
  exact stop_le_of_lt hp hq hlt hrest hinside hrest'

/-- The matches at the places of a line are its innermost forms. -/
theorem isInnermost_of_matchAt? {line : Line} {place : Place} {form : Match}
    (hplace : place ∈ placesFrom 0 line) (h : innerForm.matchAt? place = some form) :
    ∃ inside, IsInnermost line form.span inside ∧ form.span.start = place.offset
      ∧ head? form = (Text.tokens inside).head? := by
  obtain ⟨before, hline, hoffset⟩ := mem_places_iff.mp hplace
  obtain ⟨inside, after, hrest, hinside, hspan, hhead⟩ := exists_interior_of_matchAt? h
  refine ⟨inside, ⟨before, after, hrest ▸ hline, hinside, ?_⟩, ?_, hhead⟩
  · rw [hspan, hoffset]
  · rw [hspan]

/-- Each innermost form is the match at one of the places of the line. -/
theorem IsInnermost.exists_matchAt? {line : Line} {span : Span} {inside : List Char}
    (h : IsInnermost line span inside) :
    ∃ place ∈ placesFrom 0 line, ∃ form, innerForm.matchAt? place = some form
      ∧ form.span = span ∧ head? form = (Text.tokens inside).head? := by
  obtain ⟨before, after, hline, hinside, rfl⟩ := h
  refine ⟨⟨before.length, '(' :: (inside ++ ')' :: after)⟩,
    mem_places_iff.mpr ⟨before, hline, rfl⟩, ?_⟩
  obtain ⟨form, hform⟩ := Option.ne_none_iff_exists'.mp
    (@matchAt?_ne_none ⟨before.length, _⟩ inside after rfl hinside)
  obtain ⟨inside', after', hrest, hinside', hspan, hhead⟩ := exists_interior_of_matchAt? hform
  obtain ⟨rfl, -, -⟩ := hinside.eq_of_append hinside' (Or.inr rfl) (Or.inr rfl)
    (List.cons.inj hrest).2
  exact ⟨form, hform, hspan, hhead⟩

/-! ## Flagged forms -/

/-- An innermost form whose first token has a property. -/
def IsFlagged (flagged : List Char → Prop) (line : Line) (span : Span) : Prop :=
  ∃ inside head, IsInnermost line span inside ∧ IsFirstToken head inside ∧ flagged head

/-- **The leftmost innermost form** whose first token has the property. -/
def IsFirstFlagged (flagged : List Char → Prop) (line : Line) (span : Span) : Prop :=
  IsFlagged flagged line span ∧ ∀ other, IsFlagged flagged line other → span.start ≤ other.start

section Search

variable {line : Line} {span : Span} {test : Match → Bool} {flagged : List Char → Prop}

/-- The flagged forms are the matches that pass a test of their head. -/
theorem isFlagged_iff
    (htest : ∀ form, test form = true ↔ ∃ head, head? form = some head ∧ flagged head) :
    IsFlagged flagged line span
      ↔ ∃ place ∈ placesFrom 0 line, ∃ form, innerForm.matchAt? place = some form
          ∧ test form = true ∧ form.span = span ∧ span.start = place.offset := by
  constructor
  · rintro ⟨inside, head, hinner, hhead, hflagged⟩
    obtain ⟨place, hplace, form, hform, rfl, hfirst⟩ := hinner.exists_matchAt?
    obtain ⟨-, -, hstart, -⟩ := isInnermost_of_matchAt? hplace hform
    refine ⟨place, hplace, form, hform, (htest form).mpr ⟨head, ?_, hflagged⟩, rfl, hstart⟩
    rw [hfirst, Text.head?_tokens_eq_some_iff]
    exact hhead
  · rintro ⟨place, hplace, form, hform, hpasses, rfl, -⟩
    obtain ⟨inside, hinner, -, hfirst⟩ := isInnermost_of_matchAt? hplace hform
    obtain ⟨head, hhead, hflagged⟩ := (htest form).mp hpasses
    rw [hfirst, Text.head?_tokens_eq_some_iff] at hhead
    exact ⟨inside, head, hinner, hhead, hflagged⟩

/-- The search for a form that passes a test goes through the places of the line. -/
theorem find?_findAll (test : Match → Bool) (line : Line) :
    (innerForm.findAll line).find? test
      = (placesFrom 0 line).findSome? fun place => (innerForm.matchAt? place).filter test := by
  rw [findAll_innerForm, ← List.head?_filter, List.filter_filterMap, List.head?_filterMap]

/-- **The search finds the leftmost form that is flagged.** -/
theorem find?_findAll_eq_some_iff
    (htest : ∀ form, test form = true ↔ ∃ head, head? form = some head ∧ flagged head) :
    ((innerForm.findAll line).find? test).map (·.span) = some span
      ↔ IsFirstFlagged flagged line span := by
  simp only [IsFirstFlagged, isFlagged_iff htest, find?_findAll, Option.map_eq_some_iff,
    findSome?_placesFrom_eq_some_iff, Option.filter_eq_some_iff, Option.filter_eq_none_iff]
  constructor
  · rintro ⟨form, ⟨place, hplace, ⟨hform, hpasses⟩, hleftmost⟩, rfl⟩
    obtain ⟨-, -, hstart, -⟩ := isInnermost_of_matchAt? hplace hform
    refine ⟨⟨place, hplace, form, hform, hpasses, rfl, hstart⟩, ?_⟩
    rintro other ⟨place', hplace', form', hform', hpasses', rfl, hstart'⟩
    by_contra hlt
    refine hleftmost place' hplace' (by omega) form' hform' hpasses'
  · rintro ⟨⟨place, hplace, form, hform, hpasses, rfl, hstart⟩, hleftmost⟩
    refine ⟨form, ⟨place, hplace, ⟨hform, hpasses⟩, ?_⟩, rfl⟩
    intro earlier hearlier hlt form' hform' hpasses'
    obtain ⟨-, -, hstart', -⟩ := isInnermost_of_matchAt? hearlier hform'
    have hle := hleftmost form'.span
      ⟨earlier, hearlier, form', hform', hpasses', rfl, hstart'⟩
    omega

/-- Nothing is found in a line exactly if none of its forms is flagged. -/
theorem find?_findAll_eq_none_iff
    (htest : ∀ form, test form = true ↔ ∃ head, head? form = some head ∧ flagged head) :
    ((innerForm.findAll line).find? test).map (·.span) = none
      ↔ ∀ span, ¬ IsFlagged flagged line span := by
  simp only [isFlagged_iff htest, find?_findAll, Option.map_eq_none_iff, List.findSome?_eq_none_iff,
    Option.filter_eq_none_iff]
  constructor
  · rintro hnone span ⟨place, hplace, form, hform, hpasses, -⟩
    exact hnone place hplace form hform hpasses
  · intro hnone place hplace form hform hpasses
    obtain ⟨-, -, hstart, -⟩ := isInnermost_of_matchAt? hplace hform
    exact hnone form.span ⟨place, hplace, form, hform, hpasses, rfl, hstart⟩

end Search

end KnownNames

end TurtleAssist
