import Mathlib.Data.List.Infix
import TurtleAssist.Proofs.Pattern.Language

/-!
# Leftmost stretches

From one place of a line a pattern may accept texts of several lengths, and then it is the order
of its ways that decides where a match ends. For the patterns of forms and calls there is nothing
to decide: no text that they accept is the beginning of another one. For such a class of texts
the match of a pattern is told without the pattern. It is the leftmost stretch of the line that
lies in the class, as a whole (`span_find?_iff_isLeftmostStretch`).
-/

namespace TurtleAssist

open Text (Span)

namespace Text

/-- **The text stands in the line** at the span. -/
def StandsAt (line : List Char) (span : Span) (text : List Char) : Prop :=
  ∃ before rest, line = before ++ (text ++ rest)
    ∧ span = ⟨before.length, before.length + text.length⟩

/-- At two spans that begin at one place the line goes on alike. -/
theorem StandsAt.append_eq {line s t : List Char} {one two : Span} (hs : StandsAt line one s)
    (ht : StandsAt line two t) (hstart : one.start = two.start) :
    ∃ rest rest', s ++ rest = t ++ rest' := by
  obtain ⟨before, rest, hline, rfl⟩ := hs
  obtain ⟨before', rest', hline', rfl⟩ := ht
  exact ⟨rest, rest', (List.append_inj (hline.symm.trans hline') hstart).2⟩

/-- Only one text stands at a span. -/
theorem StandsAt.unique {line s t : List Char} {span : Span} (hs : StandsAt line span s)
    (ht : StandsAt line span t) : s = t := by
  obtain ⟨rest, rest', heq⟩ := hs.append_eq ht rfl
  obtain ⟨before, -, -, rfl⟩ := hs
  obtain ⟨before', -, -, hspan⟩ := ht
  have hlength : s.length = t.length := by
    obtain ⟨hstart, hstop⟩ := Span.mk.inj hspan
    omega
  exact (List.append_inj heq hlength).1

/-- **The leftmost stretch of a line that lies in the class.** -/
def IsLeftmostStretch (inClass : List Char → Prop) (line : List Char) (span : Span) : Prop :=
  (∃ text, StandsAt line span text ∧ inClass text)
    ∧ ∀ other text, StandsAt line other text → inClass text → span.start ≤ other.start

/-- **No text of the class is the beginning of another one.** -/
def IsPrefixFree (inClass : List Char → Prop) : Prop :=
  ∀ s t, inClass s → inClass t → s <+: t → s = t

/-- So a text that begins with one of them begins with no other. -/
theorem IsPrefixFree.eq_of_append {inClass : List Char → Prop} (h : IsPrefixFree inClass)
    {s t rest rest' : List Char} (hs : inClass s) (ht : inClass t)
    (heq : s ++ rest = t ++ rest') : s = t := by
  rcases List.prefix_or_prefix_of_prefix ⟨rest, heq⟩ (List.prefix_append t rest') with hst | hts
  · exact h s t hs ht hst
  · exact (h t s ht hs hts).symm

theorem IsPrefixFree.mono {inClass other : List Char → Prop} (h : IsPrefixFree other)
    (himp : ∀ s, inClass s → other s) : IsPrefixFree inClass :=
  fun s t hs ht => h s t (himp s hs) (himp t ht)

/-- Stretches of a prefix-free class that begin at one place are one. -/
theorem IsPrefixFree.span_eq {inClass : List Char → Prop} (h : IsPrefixFree inClass)
    {line s t : List Char} {one two : Span} (hs : StandsAt line one s) (ht : StandsAt line two t)
    (hsClass : inClass s) (htClass : inClass t) (hstart : one.start = two.start) : one = two := by
  obtain ⟨rest, rest', heq⟩ := hs.append_eq ht hstart
  obtain rfl : s = t := h.eq_of_append hsClass htClass heq
  obtain ⟨before, -, -, rfl⟩ := hs
  obtain ⟨before', -, -, rfl⟩ := ht
  have hlength : before.length = before'.length := hstart
  rw [hlength]

end Text

open Text (StandsAt IsLeftmostStretch IsPrefixFree)

namespace Pattern

variable {pattern : Pattern} {line : List Char} {span : Span}

/-- A pattern is in a line exactly if a text that it accepts stands there. -/
theorem isIn_iff_standsAt (h : pattern.isPlaceless = true) :
    pattern.isIn line = true ↔ ∃ span text, StandsAt line span text ∧ pattern.Accepts text := by
  rw [isIn_iff_accepts h]
  constructor
  · rintro ⟨before, text, rest, hline, haccepts⟩
    exact ⟨_, text, ⟨before, rest, hline, rfl⟩, haccepts⟩
  · rintro ⟨span, text, ⟨before, rest, hline, -⟩, haccepts⟩
    exact ⟨before, text, rest, hline, haccepts⟩

/-- The match in a line is a leftmost stretch of what the pattern accepts. -/
theorem isLeftmostStretch_of_find? (h : pattern.isPlaceless = true) {found : Match}
    (hfound : pattern.find? line = some found) :
    IsLeftmostStretch pattern.Accepts line found.span := by
  obtain ⟨before, text, rest, hline, haccepts, hspan, hleftmost⟩ := exists_stretch_of_find? h hfound
  refine ⟨⟨text, ⟨before, rest, hline, hspan⟩, haccepts⟩, ?_⟩
  rintro other text' ⟨before', rest', hline', rfl⟩ haccepts'
  rw [hspan]
  exact hleftmost before' text' rest' hline' haccepts'

/-- **The match is the leftmost stretch** that the pattern accepts, if no text that it accepts is
the beginning of another one. -/
theorem span_find?_iff_isLeftmostStretch (h : pattern.isPlaceless = true)
    (hfree : IsPrefixFree pattern.Accepts) :
    (pattern.find? line).map (·.span) = some span
      ↔ IsLeftmostStretch pattern.Accepts line span := by
  constructor
  · intro hspan
    obtain ⟨found, hfound, rfl⟩ := Option.map_eq_some_iff.mp hspan
    exact isLeftmostStretch_of_find? h hfound
  · rintro ⟨⟨text, hstands, haccepts⟩, hleftmost⟩
    have hin : pattern.isIn line = true := (isIn_iff_standsAt h).mpr ⟨span, text, hstands, haccepts⟩
    obtain ⟨found, hfound⟩ := Option.isSome_iff_exists.mp hin
    obtain ⟨⟨text', hstands', haccepts'⟩, hleftmost'⟩ := isLeftmostStretch_of_find? h hfound
    have hstart : found.span.start = span.start :=
      Nat.le_antisymm (hleftmost' span text hstands haccepts)
        (hleftmost found.span text' hstands' haccepts')
    rw [hfound, ← hfree.span_eq hstands' hstands haccepts' haccepts hstart]
    rfl

end Pattern

end TurtleAssist
