import Mathlib.Data.List.Basic
import TurtleAssist.Pattern.Name
import TurtleAssist.Proofs.Pattern.Language

/-!
# Patterns held to both ends of a text

A pattern between the two ends of the text asks about the whole text and nothing
else: `isIn_whole` replaces the search by the question whether the pattern accepts
the text. The pattern of a set of names is of that form. It is found in the names of
the set and in no other text (`isIn_exactNames`), whatever characters the names are
made of and in whatever order they are given. The empty name is never recognised: it
is dropped from the alternatives, and without alternatives the pattern matches
nothing, the empty text included.
-/

namespace TurtleAssist.Pattern

open Way

/-! ## The ends of the text -/

theorem leads_textStart {p q : Place} : Leads textStart.ways p q ↔ p.offset = 0 ∧ q = p := by
  simp only [Leads, mem_ways_textStart]
  constructor
  · rintro ⟨_, ⟨hstart, rfl⟩, rfl⟩
    exact ⟨hstart, rfl⟩
  · rintro ⟨hstart, rfl⟩
    exact ⟨stay q, ⟨hstart, rfl⟩, rfl⟩

theorem leads_textEnd {p q : Place} : Leads textEnd.ways p q ↔ p.rest = [] ∧ q = p := by
  simp only [Leads, mem_ways_textEnd]
  constructor
  · rintro ⟨_, ⟨hend, rfl⟩, rfl⟩
    exact ⟨hend, rfl⟩
  · rintro ⟨hend, rfl⟩
    exact ⟨stay q, ⟨hend, rfl⟩, rfl⟩

/-- A pattern is in a line if it leads from one of its places to some place. -/
theorem isIn_iff_leads {pattern : Pattern} {line : List Char} :
    pattern.isIn line = true
      ↔ ∃ place ∈ placesFrom 0 line, ∃ stop, Leads pattern.ways place stop := by
  rw [isIn, Option.isSome_iff_ne_none, ne_eq, find?_eq_none_iff]
  constructor
  · intro h
    by_contra hnone
    refine h fun place hplace => List.eq_nil_iff_forall_not_mem.mpr fun way hway => ?_
    exact hnone ⟨place, hplace, way.stop, way, hway, rfl⟩
  · rintro ⟨place, hplace, stop, way, hway, -⟩ hnone
    rw [hnone place hplace] at hway
    cases hway

/-- **A pattern held to both ends of the text is found in the texts that it accepts.** -/
theorem isIn_whole {body : Pattern} (h : body.isPlaceless = true) {line : List Char} :
    (textStart ++ body ++ textEnd).isIn line = true ↔ body.Accepts line := by
  have hleads : ∀ place stop, Leads (textStart ++ body ++ textEnd).ways place stop
      ↔ place.offset = 0 ∧ stop.rest = []
        ∧ ∃ text, place.Reads text stop ∧ body.Accepts text := by
    intro place stop
    show Leads (compose (compose textStart.ways body.ways) textEnd.ways) place stop ↔ _
    rw [leads_compose]
    simp only [leads_compose, leads_textStart, leads_textEnd, leads_iff_accepts h]
    constructor
    · rintro ⟨_, ⟨_, ⟨hstart, rfl⟩, hreads⟩, hend, rfl⟩
      exact ⟨hstart, hend, hreads⟩
    · rintro ⟨hstart, hend, hreads⟩
      exact ⟨stop, ⟨place, ⟨hstart, rfl⟩, hreads⟩, hend, rfl⟩
  rw [isIn_iff_leads]
  constructor
  · rintro ⟨place, hplace, stop, hstop⟩
    obtain ⟨before, hline, hoffset⟩ := mem_places_iff.mp hplace
    obtain ⟨hstart, hend, text, hreads, haccepts⟩ := (hleads place stop).mp hstop
    have hbefore : before = [] := List.eq_nil_of_length_eq_zero (hoffset ▸ hstart)
    have htext : line = text := by
      rw [hline, hbefore, hreads.1, hend, List.nil_append, List.append_nil]
    exact htext ▸ haccepts
  · intro haccepts
    refine ⟨⟨0, line⟩, mem_places_iff.mpr ⟨[], rfl, rfl⟩, ⟨line.length, []⟩, ?_⟩
    exact (hleads _ _).mpr ⟨rfl, rfl, line, ⟨(List.append_nil line).symm, (Nat.zero_add _).symm⟩,
      haccepts⟩

/-! ## Sets of names -/

section Names

variable {names : List String}

/-- The names already kept stand in front of what the pass goes on to keep. -/
theorem eraseRepsBy_loop_eq (a : String) (names kept : List String) :
    List.eraseRepsBy.loop (· == ·) a names kept
      = kept.reverse ++ List.eraseRepsBy.loop (· == ·) a names [] := by
  induction names generalizing a kept with
  | nil => simp [List.eraseRepsBy.loop]
  | cons b names ih =>
    rw [List.eraseRepsBy.loop, List.eraseRepsBy.loop]
    cases a == b with
    | true => exact ih a kept
    | false =>
      show List.eraseRepsBy.loop _ b names (a :: kept)
        = kept.reverse ++ List.eraseRepsBy.loop _ b names [a]
      rw [ih b (a :: kept), ih b [a]]
      simp

/-- A name is dropped if the next one is the same. -/
theorem eraseReps_cons_cons (a b : String) (names : List String) :
    (a :: b :: names).eraseReps
      = if a = b then (b :: names).eraseReps else a :: (b :: names).eraseReps := by
  show List.eraseRepsBy.loop _ a (b :: names) [] = _
  rw [List.eraseRepsBy.loop]
  by_cases hab : a = b
  · subst hab
    rw [beq_self_eq_true, if_pos rfl]
    rfl
  · rw [beq_false_of_ne hab, if_neg hab]
    exact eraseRepsBy_loop_eq b names [a]

/-- Dropping repetitions drops no name. -/
theorem mem_eraseReps {x : String} : x ∈ names.eraseReps ↔ x ∈ names := by
  induction names with
  | nil => rfl
  | cons a names ih =>
    cases names with
    | nil => rfl
    | cons b names =>
      rw [eraseReps_cons_cons]
      by_cases hab : a = b
      · subst hab
        rw [if_pos rfl, ih, List.mem_cons, List.mem_cons, List.mem_cons, or_self_left]
      · rw [if_neg hab, List.mem_cons, ih]
        exact List.mem_cons.symm

/-- **The arranged names are the names but the empty one.** -/
theorem mem_arranged {x : String} : x ∈ arranged names ↔ x ∈ names ∧ x ≠ "" := by
  rw [arranged, mem_eraseReps, List.mem_mergeSort, List.mem_filter, bne_iff_ne]

/-- Names that come in the order of alternatives are not moved. -/
theorem arranged_of_pairwise (h : (names.filter (· != "")).Pairwise (goesBefore · ·)) :
    arranged names = (names.filter (· != "")).eraseReps := by
  rw [arranged, List.mergeSort_of_pairwise h]

/-- So their pattern can be written down without sorting them. -/
theorem exactNames_of_pairwise (h : (names.filter (· != "")).Pairwise (goesBefore · ·)) :
    exactNames names
      = if (names.filter (· != "")).eraseReps.isEmpty then text "a" ++ textStart
        else textStart ++ group (anyOf ((names.filter (· != "")).eraseReps.map name))
          ++ textEnd := by
  rw [exactNames, alternation, arranged_of_pairwise h]

theorem accepts_name {x : String} {s : List Char} : (name x).Accepts s ↔ s = x.toList :=
  Iff.rfl

theorem isPlaceless_anyOf {patterns : List Pattern}
    (h : ∀ pattern ∈ patterns, pattern.isPlaceless = true) :
    (anyOf patterns).isPlaceless = true := by
  induction patterns with
  | nil => rfl
  | cons pattern patterns ih =>
    obtain ⟨hpattern, hpatterns⟩ := List.forall_mem_cons.mp h
    cases patterns with
    | nil => exact hpattern
    | cons next others => exact Bool.and_eq_true_iff.mpr ⟨hpattern, ih hpatterns⟩

theorem isPlaceless_alternation (names : List String) :
    (alternation names).isPlaceless = true := by
  refine isPlaceless_anyOf fun pattern hpattern => ?_
  obtain ⟨x, -, rfl⟩ := List.mem_map.mp hpattern
  rfl

/-- Alternatives accept what one of them accepts. -/
theorem accepts_anyOf {patterns : List Pattern} (hne : patterns ≠ []) {s : List Char} :
    (anyOf patterns).Accepts s ↔ ∃ pattern ∈ patterns, pattern.Accepts s := by
  induction patterns with
  | nil => exact absurd rfl hne
  | cons pattern patterns ih =>
    cases patterns with
    | nil => simp [anyOf]
    | cons next others =>
      show pattern.Accepts s ∨ (anyOf (next :: others)).Accepts s ↔ _
      rw [ih (List.cons_ne_nil _ _)]
      simp only [List.mem_cons, exists_eq_or_imp]

/-- The pattern that asks for a character before the start of the text is in no line. -/
theorem isIn_after_start {s : String} (hs : s ≠ "") {line : List Char} :
    (text s ++ textStart).isIn line = false := by
  rw [Bool.eq_false_iff, ne_eq, isIn_iff_leads]
  rintro ⟨place, -, stop, hstop⟩
  obtain ⟨middle, hfirst, hsecond⟩ := leads_compose.mp hstop
  obtain ⟨read, hreads, haccepts⟩ := (leads_iff_accepts rfl).mp hfirst
  obtain rfl : read = s.toList := haccepts
  have hstart : middle.offset = 0 := (leads_textStart.mp hsecond).1
  have hlength : s.toList.length = 0 := by
    have := hreads.2
    omega
  exact hs (String.toList_eq_nil_iff.mp (List.eq_nil_of_length_eq_zero hlength))

/-- **The pattern of a set of names is found in its names**, the empty one left out. -/
theorem isIn_exactNames {probe : List Char} :
    (exactNames names).isIn probe = true ↔ probe ≠ [] ∧ String.ofList probe ∈ names := by
  have hofList : ∀ x : String, probe = x.toList ↔ x = String.ofList probe :=
    fun x => ⟨fun h => h ▸ String.ofList_toList.symm, fun h => h ▸ String.toList_ofList.symm⟩
  have hempty : String.ofList probe ≠ "" ↔ probe ≠ [] := by
    rw [ne_eq, ne_eq, ← String.toList_eq_nil_iff, String.toList_ofList]
  have hmem : (probe ≠ [] ∧ String.ofList probe ∈ names)
      ↔ ∃ x ∈ arranged names, probe = x.toList := by
    simp only [hofList, exists_eq_right, mem_arranged, hempty, and_comm]
  rw [hmem, exactNames]
  by_cases hnone : arranged names = []
  · rw [if_pos (List.isEmpty_iff.mpr hnone), isIn_after_start (by decide), hnone]
    simp
  · rw [if_neg (fun h => hnone (List.isEmpty_iff.mp h)), isIn_whole]
    · show (anyOf ((arranged names).map name)).Accepts probe ↔ _
      rw [accepts_anyOf (fun h => hnone (List.map_eq_nil_iff.mp h))]
      simp only [List.mem_map, exists_exists_and_eq_and, accepts_name]
    · exact isPlaceless_alternation names

end Names

end TurtleAssist.Pattern
