import TurtleAssist.Pattern.Size

/-!
# Patterns that are ready for use

A pattern is made ready by a compiler before it is used, and the compiler may refuse it, for
reasons of its own. Nothing but the program itself depends on these reasons. What counts is that
a pattern which is accepted is used as it was written, and this is what a `Compiler` promises.

The program uses the one that refuses patterns for their size.
-/

namespace TurtleAssist

/-- **What makes patterns ready for use,** or refuses them. A pattern that is accepted is
not changed. -/
structure Compiler where
  compile : Pattern → Except PatternError Pattern
  eq_of_compile : ∀ {pattern ready : Pattern}, compile pattern = .ok ready → ready = pattern

namespace Compiler

/-- Whether a pattern is accepted. -/
def accepts (compiler : Compiler) (pattern : Pattern) : Bool :=
  (compiler.compile pattern).isOk

/-- A pattern that is accepted is ready as it is. -/
theorem accepts_iff {compiler : Compiler} {pattern : Pattern} :
    compiler.accepts pattern = true ↔ compiler.compile pattern = .ok pattern := by
  unfold accepts
  cases h : compiler.compile pattern with
  | error failure => exact iff_of_false Bool.false_ne_true nofun
  | ok ready =>
    rw [compiler.eq_of_compile h]
    exact iff_of_true rfl rfl

/-- What is made of a pattern when it is ready is made of the pattern itself. -/
theorem map_compile_eq_ok_iff {α : Type} {compiler : Compiler} {pattern : Pattern}
    {make : Pattern → α} {made : α} :
    (compiler.compile pattern).map make = .ok made
      ↔ made = make pattern ∧ compiler.accepts pattern = true := by
  rw [accepts_iff]
  cases h : compiler.compile pattern with
  | error failure => exact iff_of_false nofun fun hall => nomatch hall.2
  | ok ready =>
    obtain rfl := compiler.eq_of_compile h
    show Except.ok _ = _ ↔ _
    rw [Except.ok.injEq, eq_comm]
    exact (and_iff_left rfl).symm

/-- The compiler of the program: a pattern is accepted if it is not too large. -/
def bounded : Compiler where
  compile := Pattern.checked
  eq_of_compile := by
    intro pattern ready h
    unfold Pattern.checked at h
    split at h
    · exact (Except.ok.inj h).symm
    · cases h

theorem accepts_bounded (pattern : Pattern) :
    bounded.accepts pattern = decide (pattern.size ≤ Pattern.sizeLimit) := by
  show (Pattern.checked pattern).isOk = _
  unfold Pattern.checked
  by_cases h : pattern.size ≤ Pattern.sizeLimit
  · rw [if_pos h, decide_eq_true h]
    rfl
  · rw [if_neg h, decide_eq_false h]
    rfl

end Compiler

end TurtleAssist
