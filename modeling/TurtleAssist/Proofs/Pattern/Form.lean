import Mathlib.Data.List.Basic
import TurtleAssist.Proofs.Pattern.Language
import TurtleAssist.Proofs.Text.Flat

/-!
# Patterns and a line that is one form

Most rules describe a whole form, from its opening to its closing parenthesis. A line that
is one form has no other stretch between parentheses, so such a rule is found in the line
exactly if it accepts what stands inside (`isIn_form_iff`), and then the match is
the whole line (`span_of_find?_form`).

That a pattern does not accept a text shows most often in the characters of the text. One of
them may be of no use to the pattern, or the pattern may need one that is missing. `Within` says
of a pattern that it uses characters with a property only, and `Needs` that it does not do
without them.
-/

namespace TurtleAssist.Pattern

open Text (IsFlat form)

variable {body pattern : Pattern} {inside line s : List Char}

/-! ## A whole form -/

/-- A pattern of a form accepts the forms of what its body accepts. -/
theorem accepts_form :
    (opened (body ++ text ")")).Accepts s ↔ ∃ t, s = form t ∧ body.Accepts t := by
  constructor
  · rintro ⟨_, _, rfl, rfl, t, _, rfl, hbody, rfl⟩
    exact ⟨t, rfl, hbody⟩
  · rintro ⟨t, rfl, hbody⟩
    exact ⟨['('], t ++ [')'], rfl, rfl, t, [')'], rfl, hbody, rfl⟩

/-- The only form in a line that is one form is the line itself. -/
theorem eq_nil_of_form_stretch {before t rest : List Char} (hflat : IsFlat inside)
    (h : form inside = before ++ (form t ++ rest)) : before = [] ∧ rest = [] ∧ t = inside := by
  have hopen : form inside = before ++ '(' :: (t ++ ')' :: rest) := by
    rw [h]
    simp [form]
  obtain ⟨rfl, htail⟩ := hflat.eq_of_open hopen
  have hclose : form inside = ('(' :: t) ++ ')' :: rest := hopen
  obtain ⟨rfl, hbefore⟩ := hflat.eq_of_close hclose
  exact ⟨rfl, rfl, (List.cons.inj hbefore).2⟩

theorem isPlaceless_form (h : body.isPlaceless = true) :
    (opened (body ++ text ")")).isPlaceless = true := by
  show (true && (body.isPlaceless && true)) = true
  rw [h]
  rfl

/-- **A pattern of a form is in a line that is one form exactly if its body accepts what
stands inside.** -/
theorem isIn_form_iff (hflat : IsFlat inside) (hbody : body.isPlaceless = true) :
    (opened (body ++ text ")")).isIn (form inside) = true ↔ body.Accepts inside := by
  rw [isIn_iff_accepts (isPlaceless_form hbody)]
  constructor
  · rintro ⟨before, stretch, rest, hline, haccepts⟩
    obtain ⟨t, rfl, ht⟩ := accepts_form.mp haccepts
    obtain ⟨-, -, rfl⟩ := eq_nil_of_form_stretch hflat hline
    exact ht
  · intro haccepts
    exact ⟨[], form inside, [], (List.append_nil _).symm, accepts_form.mpr ⟨inside, rfl, haccepts⟩⟩

/-- The match of a pattern that accepts forms only is the whole line. -/
theorem span_of_find?_of_forms (hflat : IsFlat inside) (hplaceless : pattern.isPlaceless = true)
    (hforms : ∀ s, pattern.Accepts s → ∃ t, s = form t) {found : Match}
    (h : pattern.find? (form inside) = some found) : found.span = ⟨0, (form inside).length⟩ := by
  obtain ⟨before, stretch, rest, hline, haccepts, hspan, -⟩ := exists_stretch_of_find? hplaceless h
  obtain ⟨t, rfl⟩ := hforms stretch haccepts
  obtain ⟨rfl, -, rfl⟩ := eq_nil_of_form_stretch hflat hline
  rw [hspan, List.length_nil, Nat.zero_add]

theorem span_of_find?_form (hflat : IsFlat inside) (hbody : body.isPlaceless = true)
    {found : Match} (h : (opened (body ++ text ")")).find? (form inside) = some found) :
    found.span = ⟨0, (form inside).length⟩ := by
  refine span_of_find?_of_forms hflat (isPlaceless_form hbody) (fun s hs => ?_) h
  obtain ⟨t, rfl, -⟩ := accepts_form.mp hs
  exact ⟨t, rfl⟩

/-! ## The characters that a pattern uses -/

/-- **A pattern uses characters with a property only.** -/
def Within (P : Char → Prop) : Pattern → Prop
  | .literal _ text => ∀ c ∈ text, P c
  | .one set => ∀ c, set.contains c = true → P c
  | .run set _ _ => ∀ c, set.contains c = true → P c
  | .seq first second => first.Within P ∧ second.Within P
  | .alt preferred other => preferred.Within P ∧ other.Within P
  | .group body => body.Within P
  | .capture _ body => body.Within P
  | .times body _ => body.Within P
  | _ => True

/-- Sets that leave out both parentheses. -/
theorem CharSet.ne_paren_of_contains {set : CharSet} (hopen : set.contains '(' = false)
    (hclose : set.contains ')' = false) :
    ∀ c, set.contains c = true → c ≠ '(' ∧ c ≠ ')' := by
  intro c hc
  refine ⟨?_, ?_⟩ <;> rintro rfl
  · exact Bool.noConfusion (hopen.symm.trans hc)
  · exact Bool.noConfusion (hclose.symm.trans hc)

/-- What such a pattern accepts is made of these characters. -/
theorem Within.forall_mem {P : Char → Prop} (h : pattern.Within P) (haccepts : pattern.Accepts s) :
    ∀ c ∈ s, P c := by
  induction pattern generalizing s with
  | empty | textStart | textEnd =>
    obtain rfl : s = [] := haccepts
    exact List.forall_mem_nil _
  | literal spelling text =>
    obtain rfl : s = text := haccepts
    exact h
  | one set =>
    obtain ⟨c, hc, rfl⟩ := haccepts
    exact List.forall_mem_singleton.mpr (h c hc)
  | run set nonempty greedy => exact fun c hc => h c (haccepts.2 c hc)
  | seq first second ih₁ ih₂ =>
    obtain ⟨s₁, s₂, rfl, h₁, h₂⟩ := haccepts
    exact List.forall_mem_append.mpr ⟨ih₁ h.1 h₁, ih₂ h.2 h₂⟩
  | alt preferred other ih₁ ih₂ => exact haccepts.elim (ih₁ h.1) (ih₂ h.2)
  | group body ih => exact ih h haccepts
  | capture label body ih => exact ih h haccepts
  | times body quantifier ih =>
    obtain ⟨parts, rfl, hparts, -⟩ := haccepts
    intro c hc
    obtain ⟨part, hpart, hmem⟩ := List.mem_flatten.mp hc
    exact ih h (hparts part hpart) c hmem

/-- Whether the pattern has no use for a character. -/
def avoids (x : Char) : Pattern → Bool
  | .literal _ text => !text.contains x
  | .one set => !set.contains x
  | .run set _ _ => !set.contains x
  | .seq first second => first.avoids x && second.avoids x
  | .alt preferred other => preferred.avoids x && other.avoids x
  | .group body => body.avoids x
  | .capture _ body => body.avoids x
  | .times body _ => body.avoids x
  | _ => true

theorem within_of_avoids {x : Char} (h : pattern.avoids x = true) : pattern.Within (· ≠ x) := by
  have hset : ∀ {set : CharSet}, (!set.contains x) = true → ∀ c, set.contains c = true → c ≠ x := by
    rintro set hx c hc rfl
    rw [hc] at hx
    cases hx
  induction pattern with
  | empty | textStart | textEnd => trivial
  | literal spelling text =>
    rintro c hc rfl
    rw [avoids, List.contains_eq_mem, decide_eq_true hc] at h
    cases h
  | one set => exact hset h
  | run set nonempty greedy => exact hset h
  | seq first second ih₁ ih₂ =>
    obtain ⟨h₁, h₂⟩ := Bool.and_eq_true_iff.mp h
    exact ⟨ih₁ h₁, ih₂ h₂⟩
  | alt preferred other ih₁ ih₂ =>
    obtain ⟨h₁, h₂⟩ := Bool.and_eq_true_iff.mp h
    exact ⟨ih₁ h₁, ih₂ h₂⟩
  | group body ih => exact ih h
  | capture label body ih => exact ih h
  | times body quantifier ih => exact ih h

/-- **A pattern needs a character with a property**: nothing without one is accepted. -/
def Needs (P : Char → Prop) : Pattern → Prop
  | .literal _ text => ∃ c ∈ text, P c
  | .one set => ∀ c, set.contains c = true → P c
  | .run set nonempty _ => nonempty = true ∧ ∀ c, set.contains c = true → P c
  | .seq first second => first.Needs P ∨ second.Needs P
  | .alt preferred other => preferred.Needs P ∧ other.Needs P
  | .group body => body.Needs P
  | .capture _ body => body.Needs P
  | .times body quantifier => 0 < quantifier.least ∧ body.Needs P
  | _ => False

/-- What such a pattern accepts has one of these characters. -/
theorem Needs.exists_mem {P : Char → Prop} (h : pattern.Needs P) (haccepts : pattern.Accepts s) :
    ∃ c ∈ s, P c := by
  induction pattern generalizing s with
  | empty | textStart | textEnd => cases h
  | literal spelling text =>
    obtain rfl : s = text := haccepts
    exact h
  | one set =>
    obtain ⟨c, hc, rfl⟩ := haccepts
    exact ⟨c, List.mem_singleton_self c, h c hc⟩
  | run set nonempty greedy =>
    obtain ⟨c, hc⟩ := List.exists_mem_of_ne_nil s (haccepts.1 h.1)
    exact ⟨c, hc, h.2 c (haccepts.2 c hc)⟩
  | seq first second ih₁ ih₂ =>
    obtain ⟨s₁, s₂, rfl, h₁, h₂⟩ := haccepts
    rcases h with h | h
    · obtain ⟨c, hc, hP⟩ := ih₁ h h₁
      exact ⟨c, List.mem_append_left s₂ hc, hP⟩
    · obtain ⟨c, hc, hP⟩ := ih₂ h h₂
      exact ⟨c, List.mem_append_right s₁ hc, hP⟩
  | alt preferred other ih₁ ih₂ => exact haccepts.elim (ih₁ h.1) (ih₂ h.2)
  | group body ih => exact ih h haccepts
  | capture label body ih => exact ih h haccepts
  | times body quantifier ih =>
    obtain ⟨parts, rfl, hparts, hleast, -⟩ := haccepts
    obtain ⟨part, hpart⟩ := List.exists_mem_of_length_pos (h.1.trans_le hleast)
    obtain ⟨c, hc, hP⟩ := ih h.2 (hparts part hpart)
    exact ⟨c, List.mem_flatten_of_mem hpart hc, hP⟩

/-- It is in no line without them. -/
theorem Needs.isIn_eq_false {P : Char → Prop} (h : pattern.Needs P)
    (hplaceless : pattern.isPlaceless = true) (hline : ∀ c ∈ line, ¬ P c) :
    pattern.isIn line = false := by
  rw [Bool.eq_false_iff, ne_eq, isIn_iff_accepts hplaceless]
  rintro ⟨before, stretch, rest, rfl, haccepts⟩
  obtain ⟨c, hc, hP⟩ := h.exists_mem haccepts
  exact hline c (List.mem_append_right before (List.mem_append_left rest hc)) hP

end TurtleAssist.Pattern
