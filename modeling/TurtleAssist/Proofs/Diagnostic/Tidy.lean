import Mathlib.Data.List.Basic
import TurtleAssist.Diagnostic.Rule
import TurtleAssist.Proofs.Pattern.Form

/-!
# Tidy forms

The rules that need no catalog speak of white space next to the parentheses, of forms that
hold numbers only, and of the brackets of a type. A line that is one form with a word
inside, without white space at its ends and without such brackets, gives none of them a
reason to speak (`isIn_eq_false_of_isTidy`).
-/

namespace TurtleAssist

open Text (IsFlat form)
open Unicode (isWhiteSpace)

/-- **What a tidy form holds**: a letter at least, no parentheses, no angle bracket, and no
white space at its ends. -/
structure IsTidy (inside : List Char) : Prop where
  flat : IsFlat inside
  letter : ∃ c ∈ inside, c.isAlpha = true
  no_bracket : '<' ∉ inside
  head : ∀ c ∈ inside.head?, isWhiteSpace c = false
  last : ∀ c ∈ inside.getLast?, isWhiteSpace c = false

namespace Rule

open Pattern

variable {inside line : List Char}

/-! ## What the rules have no use for -/

/-- A pattern that does not use letters accepts no text with a letter. -/
theorem not_accepts_of_letter {pattern : Pattern}
    (hpattern : pattern.Within fun c => c.isAlpha = false) {s : List Char}
    (hletter : ∃ c ∈ s, c.isAlpha = true) : ¬ pattern.Accepts s := by
  intro haccepts
  obtain ⟨c, hc, halpha⟩ := hletter
  rw [hpattern.forall_mem haccepts c hc] at halpha
  cases halpha

theorem isAlpha_eq_false_of_space {c : Char} (h : CharSet.space.contains c = true) :
    c.isAlpha = false := by
  rw [Bool.eq_false_iff]
  intro halpha
  rw [CharSet.contains, Unicode.isWhiteSpace_eq_false_of_isAlpha halpha] at h
  cases h

theorem isAlpha_eq_false_of_digit {c : Char} (h : CharSet.digit.contains c = true) :
    c.isAlpha = false := by
  rw [Bool.eq_false_iff]
  intro halpha
  rw [CharSet.contains, Unicode.isDigit_eq_false_of_isAlpha halpha] at h
  cases h

theorem contains_nonLetter {c : Char} :
    nonLetter.contains c = true ↔ (c ≠ '(' ∧ c ≠ ')') ∧ c.isAlpha = false := by
  have hletter : c.isAlpha = false
      ↔ (SetItem.range 'a' 'z').contains c = false ∧ (SetItem.range 'A' 'Z').contains c = false := by
    rw [Bool.eq_false_iff, ne_eq, ← CharSet.contains_letter, Bool.not_eq_true]
    simp only [CharSet.letter, CharSet.contains, List.any_cons, List.any_nil, Bool.or_false,
      Bool.or_eq_false_iff]
  rw [hletter]
  simp only [nonLetter, CharSet.contains, List.any_cons, List.any_nil, Bool.or_false,
    Bool.not_eq_true', Bool.or_eq_false_iff, SetItem.contains, beq_eq_false_iff_ne, and_assoc]

theorem isAlpha_eq_false_of_nonLetter {c : Char} (h : nonLetter.contains c = true) :
    c.isAlpha = false :=
  (contains_nonLetter.mp h).2

/-! ## The hints on style -/

/-- **No hint on style is found in a form without white space at its ends.** -/
theorem isIn_style_eq_false (hflat : IsFlat inside)
    (hhead : ∀ c ∈ inside.head?, isWhiteSpace c = false)
    (hlast : ∀ c ∈ inside.getLast?, isWhiteSpace c = false) {rule : Rule} (hrule : rule ∈ style) :
    rule.pattern.isIn (form inside) = false := by
  simp only [style, List.mem_cons, List.not_mem_nil, or_false] at hrule
  rcases hrule with rfl | rfl | rfl
  · -- a second opening parenthesis
    rw [Bool.eq_false_iff, ne_eq, isIn_iff_accepts rfl]
    rintro ⟨before, stretch, rest, hline, _, _, rfl, rfl, s, _, rfl, -, rfl⟩
    have hopen : form inside = (before ++ '(' :: s) ++ '(' :: rest := by
      rw [hline]
      simp
    have hnil := (hflat.eq_of_open hopen).1
    exact absurd hnil (by simp)
  · -- white space after the opening parenthesis
    rw [Bool.eq_false_iff, ne_eq, isIn_iff_accepts rfl]
    rintro ⟨before, stretch, rest, hline, _, _, rfl, rfl, gap, _, rfl, hgap, c, -, rfl⟩
    obtain ⟨hne, hblank⟩ := accepts_gap.mp hgap
    obtain ⟨x, gap, rfl⟩ := List.exists_cons_of_ne_nil hne
    have hopen : form inside = before ++ '(' :: (x :: (gap ++ [c] ++ rest)) := by
      rw [hline]
      simp
    obtain ⟨-, htail⟩ := hflat.eq_of_open hopen
    have hspace : isWhiteSpace x = false := by
      cases inside with
      | nil => exact (List.cons.inj htail).1 ▸ rfl
      | cons first others => exact hhead x (by rw [(List.cons.inj htail).1]; rfl)
    rw [hblank x List.mem_cons_self] at hspace
    cases hspace
  · -- white space before the closing parenthesis
    rw [Bool.eq_false_iff, ne_eq, isIn_iff_accepts rfl]
    rintro ⟨before, stretch, rest, hline, _, _, rfl, ⟨_, gap, rfl, ⟨c, -, rfl⟩, hgap⟩, rfl⟩
    obtain ⟨hne, hblank⟩ := accepts_gap.mp hgap
    obtain ⟨others, x, rfl⟩ := (List.eq_nil_or_concat' gap).resolve_left hne
    have hclose : form inside = (before ++ ([c] ++ (others ++ [x]))) ++ ')' :: rest := by
      rw [hline]
      simp
    obtain ⟨-, hinside⟩ := hflat.eq_of_close hclose
    have hend : ('(' :: inside).getLast? = some x := by
      rw [← hinside, ← List.append_assoc, ← List.append_assoc]
      exact List.getLast?_concat
    have hspace : isWhiteSpace x = false := by
      cases inside with
      | nil => exact Option.some.inj hend ▸ rfl
      | cons first tail => exact hlast x (by rw [← List.getLast?_cons_cons]; exact hend)
    rw [hblank x (List.mem_append_right others List.mem_cons_self)] at hspace
    cases hspace

/-! ## The checks of structure -/

/-- A rule for forms without letters is not found in a tidy form. -/
theorem isIn_eq_false_of_letterless {body : Pattern} (h : IsTidy inside)
    (hplaceless : body.isPlaceless = true) (hbody : body.Within fun c => c.isAlpha = false) :
    (opened (body ++ text ")")).isIn (form inside) = false :=
  Bool.eq_false_iff.mpr fun hin =>
    not_accepts_of_letter hbody h.letter ((isIn_form_iff h.flat hplaceless).mp hin)

theorem isIn_structural_eq_false (h : IsTidy inside) {rule : Rule} (hrule : rule ∈ structural) :
    rule.pattern.isIn (form inside) = false := by
  have hspace := fun c => @isAlpha_eq_false_of_space c
  have hdigit := fun c => @isAlpha_eq_false_of_digit c
  have hnonLetter := fun c => @isAlpha_eq_false_of_nonLetter c
  have hminus : (text "-").Within fun c => c.isAlpha = false := List.forall_mem_singleton.mpr rfl
  simp only [structural, List.mem_cons, List.not_mem_nil, or_false] at hrule
  rcases hrule with rfl | rfl | rfl | rfl | rfl
  · refine isIn_eq_false_of_letterless h rfl ?_
    exact ⟨⟨⟨hspace, hdigit⟩, hspace, hdigit⟩, hspace⟩
  · refine isIn_eq_false_of_letterless h rfl ?_
    exact ⟨⟨⟨hspace, hdigit⟩, hspace, hdigit⟩, hspace⟩
  · refine isIn_eq_false_of_letterless h rfl ?_
    exact ⟨⟨⟨hnonLetter, hminus⟩, hdigit⟩, hnonLetter⟩
  · exact isIn_eq_false_of_letterless h rfl hspace
  · -- an angle bracket
    have hneeds : (structural.getLast (List.cons_ne_nil _ _)).pattern.Needs (· = '<') :=
      Or.inl (Or.inl (Or.inl (Or.inl (Or.inr ⟨'<', List.mem_singleton_self _, rfl⟩))))
    refine hneeds.isIn_eq_false rfl ?_
    rintro c hc rfl
    rcases List.mem_cons.mp hc with hmem | hmem
    · exact absurd hmem (by decide)
    · rcases List.mem_append.mp hmem with hmem | hmem
      · exact h.no_bracket hmem
      · exact absurd (List.mem_singleton.mp hmem) (by decide)

/-- **No rule without a catalog is found in a tidy form.** -/
theorem isIn_eq_false_of_isTidy (h : IsTidy inside) {rule : Rule}
    (hrule : rule ∈ style ++ structural) : rule.pattern.isIn (form inside) = false :=
  (List.mem_append.mp hrule).elim (isIn_style_eq_false h.flat h.head h.last)
    (isIn_structural_eq_false h)

end Rule

end TurtleAssist
