import Mathlib.Data.List.Basic
import TurtleAssist.Proofs.Text.Token

/-!
# Texts without parentheses

A text without parentheses ends at the first parenthesis after it, so two ways to read a
line as such a text before a parenthesis are one (`IsFlat.eq_of_append`). A line that is
one form, a text without parentheses between two of them, has its only opening parenthesis
in front and its only closing one at the end.
-/

namespace TurtleAssist.Text

open Unicode (isWhiteSpace)

/-- A text without parentheses. -/
def IsFlat (text : List Char) : Prop :=
  ∀ c ∈ text, c ≠ '(' ∧ c ≠ ')'

instance (text : List Char) : Decidable (IsFlat text) :=
  List.decidableBAll _ text

/-- The form with a text between its parentheses. -/
def form (inside : List Char) : List Char :=
  '(' :: (inside ++ [')'])

namespace IsFlat

variable {inside before rest s t s' t' : List Char} {c c' : Char}

theorem append (hs : IsFlat s) (ht : IsFlat t) : IsFlat (s ++ t) :=
  List.forall_mem_append.mpr ⟨hs, ht⟩

/-- White space holds no parentheses. -/
theorem of_blank (h : ∀ c ∈ s, isWhiteSpace c = true) : IsFlat s := by
  intro c hc
  have hspace := h c hc
  refine ⟨?_, ?_⟩ <;> rintro rfl
  · exact Bool.noConfusion ((by decide : isWhiteSpace '(' = false).symm.trans hspace)
  · exact Bool.noConfusion ((by decide : isWhiteSpace ')' = false).symm.trans hspace)

/-- A text without parentheses ends where the first parenthesis stands. -/
theorem eq_of_append (hs : IsFlat s) (ht : IsFlat t) (hc : c = '(' ∨ c = ')')
    (hc' : c' = '(' ∨ c' = ')') (h : s ++ c :: s' = t ++ c' :: t') :
    s = t ∧ c = c' ∧ s' = t' := by
  have hflat : ∀ {s : List Char}, IsFlat s → ∀ x ∈ s, (x != '(' && x != ')') = true :=
    fun hs x hx => by simp [hs x hx]
  have hparen : ∀ {c : Char}, c = '(' ∨ c = ')' → (c != '(' && c != ')') = false := by
    rintro c (rfl | rfl) <;> rfl
  exact eq_of_run_append (hflat hs) (hflat ht) (hparen hc) (hparen hc') h

/-- The only opening parenthesis of a form stands in front. -/
theorem eq_of_open (h : IsFlat inside) (heq : form inside = before ++ '(' :: rest) :
    before = [] ∧ rest = inside ++ [')'] := by
  cases before with
  | nil => exact ⟨rfl, (List.cons.inj heq).2.symm⟩
  | cons x before =>
    have hmem : '(' ∈ inside ++ [')'] := by
      rw [(List.cons.inj heq).2]
      exact List.mem_append_right before List.mem_cons_self
    rcases List.mem_append.mp hmem with hmem | hmem
    · exact absurd rfl (h '(' hmem).1
    · exact absurd (List.mem_singleton.mp hmem) (by decide)

/-- The only closing parenthesis of a form stands at the end. -/
theorem eq_of_close (h : IsFlat inside) (heq : form inside = before ++ ')' :: rest) :
    rest = [] ∧ before = '(' :: inside := by
  have hform : ('(' :: inside) ++ [')'] = before ++ ')' :: rest := heq
  rcases List.eq_nil_or_concat' rest with rfl | ⟨others, last, rfl⟩
  · obtain ⟨hbefore, -⟩ := List.append_inj' hform rfl
    exact ⟨rfl, hbefore.symm⟩
  · rw [← List.cons_append, ← List.append_assoc] at hform
    obtain ⟨hinside, -⟩ := List.append_inj' hform rfl
    have hmem : ')' ∈ '(' :: inside := by
      rw [hinside]
      exact List.mem_append_right before List.mem_cons_self
    rcases List.mem_cons.mp hmem with hmem | hmem
    · exact absurd hmem (by decide)
    · exact absurd rfl (h ')' hmem).2

end IsFlat

end TurtleAssist.Text
